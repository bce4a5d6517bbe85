import RowFence.Filter
import RowFence.Http.Body
import RowFence.Server.Config
import RowFence.Tenant.Binding

/-! What the server answers on its paths. -/

namespace RowFence

inductive Database where
  | absent | working | broken
  deriving DecidableEq, Repr

def Database.check : Database → String
  | absent => "not_configured"
  | working => "ok"
  | broken => "unavailable"

structure App where
  config : ServerConfig
  policy : Policy
  resolver : TenantResolver
  database : Database
  deriving DecidableEq, Repr

structure Occasion where
  time : String
  requestId : String
  deriving DecidableEq, Repr

/-- What comes with a request on its way: the contexts, one of them its own, and the tenant that
was resolved. -/
structure Passage where
  contexts : Contexts := {}
  context? : Option Context := none
  resolved? : Option ResolvedTenant := none
  deriving DecidableEq, Repr

inductive Endpoint where
  | health | liveness | readiness | tenant | filterCheck | scopePreview
  deriving DecidableEq, Repr

namespace Endpoint

open Http Json

def all : List Endpoint := [health, liveness, readiness, tenant, filterCheck, scopePreview]

def path : Endpoint → String
  | health => "/health"
  | liveness => "/_liveness"
  | readiness => "/_readiness"
  | tenant => "/api/tenant"
  | filterCheck => "/api/row-filters/validate"
  | scopePreview => "/api/sql/rewrite"

def ofPath? (s : String) : Option Endpoint := all.find? (·.path == s)

def methods : Endpoint → List String
  | filterCheck | scopePreview => ["POST"]
  | _ => ["GET", "HEAD"]

def accepts (e : Endpoint) (method : String) : Bool := e.methods.contains method

def answerHealth (app : App) (o : Occasion) : Response :=
  .json 200 (.object [
    ("status", .string "OK"),
    ("isolation_enabled", .bool app.policy.enabled),
    ("timestamp", .string o.time)])

def answerReadiness (app : App) : Response :=
  let ready := app.database != .broken
  .json (if ready then 200 else 503) (.object [
    ("status", .string (if ready then "ready" else "not_ready")),
    ("checks", .object [("database", .string app.database.check)])])

def answerTenant (app : App) (p : Passage) : Response :=
  let binding? := TenantBinding.ofRequest? p.contexts p.context? p.resolved?
  .json 200 (.object [
    ("tenant_id", (binding?.map fun b => b.tenant.toJson).getD .null),
    ("source", (binding?.map fun b => Value.string b.source.name).getD .null),
    ("isolation_enabled", .bool app.policy.enabled)])

def verdict (rejection? : Option Filter.Rejection) : Value :=
  .object (("valid", .bool rejection?.isNone)
    :: rejection?.toList.map fun e => ("message", .string e.message))

def answerFilterCheck (app : App) (r : Request) : Response :=
  match r.readField "struct ValidateRowFilterRequest" "expression" with
  | .error e => e.response
  | .ok text =>
    let rejection? := Filter.rejection? app.policy.dialect text
    .json (if rejection?.isNone then 200 else 422) (verdict rejection?)

def preview (o : Scope.Outcome) : Value :=
  .object ([
    ("sql", .string o.sql),
    ("predicates_added", .int o.predicatesAdded),
    ("scoped", .bool o.isScoped)]
    ++ o.unchanged?.toList.map fun why => ("reason", .string why.name))

def answerScopePreview (app : App) (p : Passage) (r : Request) : Response :=
  match r.readField "struct RewriteRequest" "sql" with
  | .error e => e.response
  | .ok sql =>
    match app.policy.outcome p.contexts.currentTenant? sql with
    | .error e => (Problem.ofRefusal e).response
    | .ok o => .json 200 (preview o)

def answer (app : App) (o : Occasion) (p : Passage) (r : Request) : Endpoint → Response
  | health => answerHealth app o
  | liveness => .empty 200
  | readiness => answerReadiness app
  | tenant => answerTenant app p
  | filterCheck => answerFilterCheck app r
  | scopePreview => answerScopePreview app p r

end Endpoint

end RowFence
