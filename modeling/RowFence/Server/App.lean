import RowFence.Http.Cors
import RowFence.Http.RequestId
import RowFence.Server.Endpoint

/-! The server as a function from requests to responses. Around the endpoints lies the tenant
boundary, around it the numbering of requests, and outermost the rules for other origins. -/

namespace RowFence

inductive AppError where
  | config (e : ConfigError)
  | originList
  deriving DecidableEq, Repr

namespace App

open Http

def ofPolicy (c : ServerConfig) (p : Policy) (d : TenantDirectory) (database : Database) : App :=
  ⟨c, p, .ofPolicy p d, database⟩

def cors? (c : ServerConfig) : Except AppError (Option Cors) :=
  if !c.corsEnabled then .ok none
  else
    match Cors.ofTexts? c.corsOrigins c.corsMethods c.corsHeaders with
    | some cors => .ok (some cors)
    | none => .error .originList

def create (c : ServerConfig) (files : Files) (d : TenantDirectory) (database : Database) :
    Except AppError App := do
  let p ← (c.policy files).mapError .config
  let _ ← cors? c
  return ofPolicy c p d database

/-- Lets a request pass if it needs no tenant, or with a context that holds its tenant. -/
def boundary (app : App) (next : Passage → Request → Response) (r : Request) : Response :=
  if !app.policy.enabled || app.policy.excludesPath r.uri.path then next {} r
  else
    let resolved := app.resolver.resolve app.policy r
    match resolved.tenant? with
    | none => (Problem.tenantRequired app.policy.tenantIdHeader).response
    | some t =>
      let (context, contexts) := ({} : Contexts).create (some t)
      next ⟨contexts.enter context, some context, some resolved⟩ r

def dispatch (app : App) (o : Occasion) (p : Passage) (r : Request) : Response :=
  match Endpoint.ofPath? r.uri.path with
  | none => .empty 404
  | some e => if e.accepts r.method then e.answer app o p r else .empty 405

def layers (app : App) (o : Occasion) : Request → Response :=
  let bounded := app.boundary (app.dispatch o)
  let numbered := if app.config.requestIdsEnabled then RequestId.layer o.requestId bounded else bounded
  match cors? app.config with
  | .ok (some cors) => cors.layer numbered
  | _ => numbered

def otherMethods? (r : Request) : Option String :=
  match Endpoint.ofPath? r.uri.path with
  | some e => if e.accepts r.method then none else some (",".intercalate e.methods)
  | none => none

/-- Answers a request. Whoever answers, other methods are told of, and a request for the head
alone gets no body. -/
def respond (app : App) (o : Occasion) (r : Request) : Response :=
  let answer := app.layers o r
  let answer := match otherMethods? r with
    | some methods => answer.withNewHeader "allow" methods
    | none => answer
  if r.method = "HEAD" then answer.withoutBody else answer

end App

end RowFence
