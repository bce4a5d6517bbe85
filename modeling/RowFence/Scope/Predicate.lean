import RowFence.Policy
import RowFence.Sql.Collect
import RowFence.Sql.Literal

/-! Tenant predicates, and conditions extended by them. A condition with an operator that binds no
tighter than `AND` is put in parentheses first. -/

namespace RowFence.Scope

open Sql

def tenantPredicate (name : Name) (alias? : Option TableAlias) (column : String)
    (tenant : TenantId) : Expr :=
  let qualifier := match alias? with
    | some a => [a.name]
    | none => name
  .binary (.name (qualifier ++ [⟨column, none⟩])) .eq (.value tenant.spelling)

/-- Operators that bind no tighter than `AND` in some dialect. -/
def isLoose : BinaryOp → Bool
  | .or | .xor | .concat => true
  | _ => false

def looseOperators : Node → List BinaryOp
  | .expr (.binary _ op _) => if isLoose op then [op] else []
  | _ => []

/-- Whether a loose operator occurs anywhere in an expression, queries in it included. -/
def hasLoose (e : Expr) : Bool := !(e.collect looseOperators).isEmpty

def grouped (condition : Expr) : Expr :=
  match condition with
  | .nested _ => condition
  | _ => if hasLoose condition then .nested condition else condition

def conjoin (condition predicate : Expr) : Expr := .binary (grouped condition) .and predicate

/-- A condition that may be missing, with predicates conjoined in order. -/
def extended : Option Expr → List Expr → Option Expr
  | condition, [] => condition
  | none, p :: ps => extended (some p) ps
  | some c, p :: ps => extended (some (conjoin c p)) ps

end RowFence.Scope
