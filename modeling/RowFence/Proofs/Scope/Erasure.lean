import Mathlib.Tactic.Lemma
import RowFence.Scope

/-! Taking the predicates of a tenant out of scoped statements again. Erasing changes the conditions
of statements and the ON conditions of joins and nothing else, and what it takes out are tenant
predicates at the right end of a condition and parentheses around what stands before them. It gives
the statements before scoping back, so that scoping added that much and no more. -/

namespace RowFence.Scope

open Sql

/-- How a predicate came into a condition: it is the condition, it was conjoined with one, or it was
conjoined with one that was put in parentheses for it. -/
inductive Addition where
  | alone | conjoined | grouped
  deriving DecidableEq, Repr

/-- The additions to each condition that erasing meets, those to one condition with the last of them
first. -/
abbrev Eraser := StateT (List (List Addition)) Option

def isTenantPredicate (column : String) (tenant : TenantId) : Expr → Bool
  | .binary (.name parts) .eq (.value s) =>
    parts.getLast? == some ⟨column, none⟩ && s == tenant.spelling
  | _ => false

section

variable (column : String) (tenant : TenantId)

def withoutAddition : Addition → Option Expr → Option (Option Expr)
  | .alone, some p => if isTenantPredicate column tenant p then some none else none
  | .conjoined, some (.binary e .and p) =>
    if isTenantPredicate column tenant p then some (some e) else none
  | .grouped, some (.binary (.nested e) .and p) =>
    if isTenantPredicate column tenant p then some (some e) else none
  | _, _ => none

def withoutAdditions : List Addition → Option Expr → Option (Option Expr)
  | [], condition => some condition
  | a :: rest, condition => do withoutAdditions rest (← withoutAddition column tenant a condition)

def nextAdditions : Eraser (List Addition) := fun
  | [] => none
  | additions :: rest => some (additions, rest)

def undo (condition : Option Expr) : Eraser (Option Expr) := do
  withoutAdditions column tenant (← nextAdditions) condition

mutual

def eraseExpr : Expr → Eraser Expr
  | .name parts => return .name parts
  | .value s => return .value s
  | .binary l op r => return .binary (← eraseExpr l) op (← eraseExpr r)
  | .nested e => return .nested (← eraseExpr e)
  | .call f rest => return .call f (← erasePieces rest)
  | .form pieces => return .form (← erasePieces pieces)

def eraseExprs : List Expr → Eraser (List Expr)
  | [] => return []
  | e :: es => return (← eraseExpr e) :: (← eraseExprs es)

def eraseOption : Option Expr → Eraser (Option Expr)
  | none => return none
  | some e => return some (← eraseExpr e)

def eraseCondition : Option Expr → Eraser (Option Expr)
  | none => undo column tenant none
  | some e => do undo column tenant (some (← eraseExpr e))

def erasePieces : List Piece → Eraser (List Piece)
  | [] => return []
  | .text s :: ps => return .text s :: (← erasePieces ps)
  | .expr e :: ps => return .expr (← eraseExpr e) :: (← erasePieces ps)
  | .query q :: ps => return .query (← eraseQuery q) :: (← erasePieces ps)
  | .table t :: ps => return .table (← eraseFactor false t) :: (← erasePieces ps)

/-- Subqueries of a table inside another construct are left alone, as by scoping. -/
def eraseFactor (entersQueries : Bool) : TableFactor → Eraser TableFactor
  | .base name arguments alias? hints =>
    return .base name (← erasePieces arguments) alias? (← erasePieces hints)
  | .derived lateral q alias? =>
    if entersQueries then return .derived lateral (← eraseQuery q) alias?
    else return .derived lateral q alias?
  | .nested inner alias? => return .nested (← eraseTable entersQueries inner) alias?
  | .other pieces alias? tail =>
    return .other (← erasePieces pieces) alias? (← erasePieces tail)

def eraseConstraint : JoinConstraint → Eraser JoinConstraint
  | .on e => do
    let some e ← undo column tenant (some (← eraseExpr e)) | failure
    return .on e
  | .shared columns => return .shared columns
  | .natural => return .natural
  | .none => return .none

def eraseJoins (entersQueries : Bool) : List Join → Eraser (List Join)
  | [] => return []
  | { isGlobal, op, relation, matching, constraint } :: js => do
    let relation ← eraseFactor entersQueries relation
    let matching ← eraseOption matching
    let constraint ← eraseConstraint constraint
    return { isGlobal, op, relation, matching, constraint } :: (← eraseJoins entersQueries js)

def eraseTable (entersQueries : Bool) : TableWithJoins → Eraser TableWithJoins
  | { relation, joins } =>
    return { relation := ← eraseFactor entersQueries relation
             joins := ← eraseJoins entersQueries joins }

def eraseTables : List TableWithJoins → Eraser (List TableWithJoins)
  | [] => return []
  | t :: ts => return (← eraseTable true t) :: (← eraseTables ts)

def eraseCtes : List Cte → Eraser (List Cte)
  | [] => return []
  | { given, query, source?, materialized } :: cs => do
    let query ← eraseQuery query
    return { given, query, source?, materialized } :: (← eraseCtes cs)

def eraseKeys : List OrderKey → Eraser (List OrderKey)
  | [] => return []
  | { key, direction, fill } :: ks => do
    let key ← eraseExpr key
    let fill ← erasePieces fill
    return { key, direction, fill } :: (← eraseKeys ks)

def eraseQuery : Query → Eraser Query
  | { recursive, ctes, body, orderBy, interpolate, limit, tail } => do
    let ctes ← eraseCtes ctes
    let body ← eraseBody body
    let orderBy ← eraseKeys orderBy
    let interpolate ← erasePieces interpolate
    let limit ← eraseOption limit
    return { recursive, ctes, body, orderBy, interpolate, limit, tail }

def eraseBody : Body → Eraser Body
  | .select s => return .select (← eraseSelect s)
  | .setOp l op quantifier r => return .setOp (← eraseBody l) op quantifier (← eraseBody r)
  | .query q => return .query (← eraseQuery q)
  | .rows pieces => return .rows pieces
  | .table s => return .table s
  | .change s => return .change s

def eraseItems : List SelectItem → Eraser (List SelectItem)
  | [] => return []
  | .expr e alias? :: is => return .expr (← eraseExpr e) alias? :: (← eraseItems is)
  | .wildcard qualifier options :: is =>
    return .wildcard qualifier (← erasePieces options) :: (← eraseItems is)

def eraseDistinct : Distinct → Eraser Distinct
  | .none => return .none
  | .rows => return .rows
  | .on keys => return .on (← eraseExprs keys)

def eraseSelect : Select → Eraser Select
  | { top, topFirst, distinct, items, into, tables, views, condition, groupAll, groupBy,
      groupModifiers, sorting, having, tail } => do
    let top ← erasePieces top
    let distinct ← eraseDistinct distinct
    let items ← eraseItems items
    let views ← erasePieces views
    let groupBy ← eraseExprs groupBy
    let sorting ← erasePieces sorting
    let having ← eraseOption having
    let tail ← erasePieces tail
    let tables ← eraseTables tables
    let condition ← eraseCondition condition
    return { top, topFirst, distinct, items, into, tables, views, condition, groupAll, groupBy,
             groupModifiers, sorting, having, tail }

end

def eraseTableOption : Option TableWithJoins → Eraser (Option TableWithJoins)
  | none => return none
  | some t => return some (← eraseTable column tenant true t)

def eraseUpdate (u : Update) : Eraser Update := do
  let assignments ← erasePieces column tenant u.assignments
  let target ← eraseTable column tenant true u.target
  let source? ← eraseTableOption column tenant u.source?
  let condition ← eraseCondition column tenant u.condition
  return { u with target, assignments, source?, condition }

def eraseDelete (d : Delete) : Eraser Delete := do
  let targets ← eraseTables column tenant d.targets
  let sources ← eraseTables column tenant d.sources
  let condition ← eraseCondition column tenant d.condition
  return { d with targets, sources, condition }

def eraseStatement : Statement → Eraser Statement
  | .query q => return .query (← eraseQuery column tenant q)
  | .update u => return .update (← eraseUpdate column tenant u)
  | .delete d => return .delete (← eraseDelete column tenant d)
  | .other pieces => return .other pieces

def eraseStatements (statements : List Statement) : Eraser (List Statement) :=
  statements.mapM (eraseStatement column tenant)

end

end RowFence.Scope
