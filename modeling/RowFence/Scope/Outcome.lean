import RowFence.Scope
import RowFence.Sql.Parser
import RowFence.Sql.Printer

/-! What becomes of a statement text under a policy: it is scoped to the tenant, or left exactly as
it is. -/

namespace RowFence

namespace Scope

inductive Unchanged where
  | noTenant | disabled | unparseable | nothingToScope
  deriving DecidableEq, Repr

def Unchanged.name : Unchanged → String
  | noTenant => "no_tenant"
  | disabled => "disabled"
  | unparseable => "unparseable"
  | nothingToScope => "nothing_to_scope"

structure Outcome where
  sql : String
  predicatesAdded : Nat
  unchanged? : Option Unchanged
  deriving DecidableEq, Repr

def Outcome.unchanged (sql : String) (why : Unchanged) : Outcome := ⟨sql, 0, some why⟩

def Outcome.isScoped (o : Outcome) : Bool := o.unchanged?.isNone

structure Refusal where
  reason : String
  deriving DecidableEq, Repr

def Refusal.message (e : Refusal) : String := "statement cannot be tenant-scoped: " ++ e.reason

end Scope

namespace Policy

open Scope

def onUnparseable (p : Policy) (sql : String) (e : Sql.SyntaxError) : Except Refusal Outcome :=
  match p.onParseFailure with
  | .failOpen => .ok (.unchanged sql .unparseable)
  | .failClosed => .error ⟨e.message⟩

def scopedStatements (p : Policy) (tenant : TenantId) (statements : List Sql.Statement) :
    Counted (List Sql.Statement) :=
  scopeStatements ⟨p, tenant, []⟩ statements

def outcome (p : Policy) (tenant? : Option TenantId) (sql : String) : Except Refusal Outcome :=
  match tenant? with
  | none => .ok (.unchanged sql .noTenant)
  | some tenant =>
    if !p.enabled then .ok (.unchanged sql .disabled)
    else
      match Sql.parseStatements p.dialect sql with
      | .error e => p.onUnparseable sql e
      | .ok statements =>
        match p.scopedStatements tenant statements with
        | ⟨_, 0⟩ => .ok (.unchanged sql .nothingToScope)
        | ⟨statements, added⟩ => .ok ⟨Sql.spellStatements statements, added, none⟩

def scopedText (p : Policy) (tenant? : Option TenantId) (sql : String) : Except Refusal String :=
  (p.outcome tenant? sql).map (·.sql)

end Policy

end RowFence
