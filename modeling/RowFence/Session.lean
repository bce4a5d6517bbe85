import RowFence.Tenant.Context
import RowFence.Scope.Outcome

/-! Units of work as steps on named contexts, and what each step shows. Statements are scoped to
the tenant that a context holds at the time they are issued. -/

namespace RowFence

structure Session where
  contexts : Contexts := {}
  names : List (String × Context) := []
  guards : List (String × Context) := []
  connections : List (String × Context) := []
  deriving DecidableEq, Repr

def bindName {α : Type} (name : String) (a : α) (names : List (String × α)) : List (String × α) :=
  (name, a) :: names.filter (·.1 != name)

namespace Session

inductive Ending where
  | finished | failed | abandoned
  deriving DecidableEq, Repr

inductive Call where
  | execute | queryRow | batch | prepare
  deriving DecidableEq, Repr

inductive Step where
  | idle
  | create (name : String) (tenant? : Option TenantId)
  | share (name other : String)
  | set (name : String) (t : TenantId)
  | clear (name : String)
  | get (name : String)
  | getOr (name : String) (fallback : TenantId)
  | has (name : String)
  /-- A guard clears its context when it is dropped, or when its name is given to another. -/
  | guard (name guard : String)
  | guarded (guard : String)
  | drop (guard : String)
  | current (name? : Option String)
  | currentTenant
  | scope (name : String) (ending : Ending) (steps : List Step)
  | rewrite (name sql : String)
  | rewriteFor (tenant? : Option TenantId) (sql : String)
  | rewriteCurrent (sql : String)
  | connect (connection name : String)
  | connectCurrent (connection : String)
  | submit (connection : String) (call : Call) (sql : String)
  deriving Inhabited

/-- What a step shows, and for a scope also what its steps show, each with the tenants that the
named contexts hold after it. -/
inductive Result where
  | nothing
  | tenant (t? : Option TenantId)
  | flag (b : Bool)
  | unknownGuard
  | unknownConnection
  | current (t? : Option TenantId)
  | text (sql : Except Scope.Refusal String)
  | scope (ending : Ending) (steps : List (Result × List (String × Option TenantId)))

abbrev View := List (String × Option TenantId)

def view (s : Session) : View := s.names.map fun (name, c) => (name, s.contexts.tenant? c)

def modifyContexts (f : Contexts → Contexts) : StateM Session Unit :=
  modify fun s => { s with contexts := f s.contexts }

def create (tenant? : Option TenantId) : StateM Session Context :=
  modifyGet fun s =>
    let (c, contexts) := s.contexts.create tenant?
    (c, { s with contexts })

def name (name : String) (c : Context) : StateM Session Unit :=
  modify fun s => { s with names := bindName name c s.names }

/-- The context of a name. A name that is not in use gets an empty one. -/
def named (text : String) : StateM Session Context := do
  match (← get).names.lookup text with
  | some c => return c
  | none =>
    let c ← create none
    name text c
    return c

def tenantOf (c : Context) : StateM Session (Option TenantId) := return (← get).contexts.tenant? c

def dropGuard (guard : String) : StateM Session Bool := do
  match (← get).guards.lookup guard with
  | none => return false
  | some c =>
    modifyContexts (·.clear c)
    modify fun s => { s with guards := s.guards.filter (·.1 != guard) }
    return true

def setGuard (guard : String) (c : Context) : StateM Session Unit := do
  let _ ← dropGuard guard
  modify fun s => { s with guards := bindName guard c s.guards }

def connect (connection : String) (c : Context) : StateM Session Unit :=
  modify fun s => { s with connections := bindName connection c s.connections }

mutual

def Step.run (p : Policy) : Step → StateM Session Result
  | .idle => return .nothing
  | .create text tenant? => do
    name text (← Session.create tenant?)
    return .nothing
  | .share text other => do
    name other (← named text)
    return .nothing
  | .set text t => do
    let c ← named text
    modifyContexts (·.set c t)
    return .nothing
  | .clear text => do
    let c ← named text
    modifyContexts (·.clear c)
    return .nothing
  | .get text => return .tenant (← tenantOf (← named text))
  | .getOr text fallback => return .tenant (some ((← tenantOf (← named text)).getD fallback))
  | .has text => return .flag (← tenantOf (← named text)).isSome
  | .guard text guard => do
    setGuard guard (← named text)
    return .nothing
  | .guarded guard => do
    match (← get).guards.lookup guard with
    | some c => return .tenant (← tenantOf c)
    | none => return .unknownGuard
  | .drop guard => return .flag (← dropGuard guard)
  | .current name? => do
    match (← get).contexts.current? with
    | none => return .nothing
    | some c =>
      if let some text := name? then name text c
      return .current (← tenantOf c)
  | .currentTenant => return .tenant (← get).contexts.currentTenant?
  | .scope text ending steps => do
    let c ← named text
    modifyContexts (·.enter c)
    let results ← runAll p steps
    modifyContexts (·.leave)
    return .scope ending results
  | .rewrite text sql => return .text (p.scopedText (← tenantOf (← named text)) sql)
  | .rewriteFor tenant? sql => return .text (p.scopedText tenant? sql)
  | .rewriteCurrent sql => return .text (p.scopedText (← get).contexts.currentTenant? sql)
  | .connect connection text => do
    connect connection (← named text)
    return .nothing
  | .connectCurrent connection => do
    match (← get).contexts.current? with
    | some c => connect connection c
    | none => connect connection (← Session.create none)
    return .nothing
  | .submit connection _ sql => do
    match (← get).connections.lookup connection with
    | some c => return .text (p.scopedText (← tenantOf c) sql)
    | none => return .unknownConnection

def runAll (p : Policy) : List Step → StateM Session (List (Result × View))
  | [] => return []
  | step :: steps => do
    let result ← step.run p
    let view := (← get).view
    return (result, view) :: (← runAll p steps)

end

end Session

end RowFence
