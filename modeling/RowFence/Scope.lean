import RowFence.Scope.Predicate

/-! Scoping statements to one tenant: every table that rows are read from or changed in gets a
predicate on its tenant column. -/

namespace RowFence.Scope

open Sql

/-- What scoping depends on: the rules, the tenant, and the common tables that hide base tables. -/
structure View where
  policy : Policy
  tenant : TenantId
  hidden : List TableName

/-- Where the predicate of a joined table goes: into the ON of its join, if that has one, or always
into the condition of the statement. -/
inductive Placement where
  | joinCondition | statement
  deriving DecidableEq, Repr

/-- A result, and the number of predicates that were added for it. -/
structure Counted (α : Type) where
  value : α
  added : Nat

instance : Monad Counted where
  pure a := ⟨a, 0⟩
  bind m f := ⟨(f m.value).value, m.added + (f m.value).added⟩

namespace Counted

variable {α β : Type}

@[simp] theorem value_pure (a : α) : (pure a : Counted α).value = a := rfl

@[simp] theorem added_pure (a : α) : (pure a : Counted α).added = 0 := rfl

@[simp] theorem value_bind (m : Counted α) (f : α → Counted β) :
    (m >>= f).value = (f m.value).value := rfl

@[simp] theorem added_bind (m : Counted α) (f : α → Counted β) :
    (m >>= f).added = m.added + (f m.value).added := rfl

end Counted

namespace View

def hides (v : View) (name : Name) : Bool :=
  name.length = 1 && v.hidden.contains (.ofReference (Name.spelling name))

def exempts (v : View) (name : Name) : Bool :=
  v.policy.excludesTable (Name.spelling name) || v.hides name

def predicates (v : View) (name : Name) (alias? : Option TableAlias) : List Expr :=
  if v.exempts name then [] else [tenantPredicate name alias? v.policy.tenantColumn v.tenant]

def withHidden (v : View) (name : Ident) : View :=
  { v with hidden := v.hidden ++ [.ofReference name.value] }

end View

def counted (predicates : List Expr) : Counted (List Expr) := ⟨predicates, predicates.length⟩

def isBase : TableFactor → Bool
  | .base .. => true
  | _ => false

/-- A join condition extended by the predicates of the joined table, and the predicates that it
cannot take. -/
def placed (placement : Placement) (constraint : JoinConstraint) (predicates : List Expr) :
    JoinConstraint × List Expr :=
  match placement, constraint with
  | .joinCondition, .on e => (.on (predicates.foldl conjoin e), [])
  | _, _ => (constraint, predicates)

mutual

/-- Scopes the outermost queries in an expression. -/
def scopeExpr (v : View) : Expr → Counted Expr
  | .name parts => return .name parts
  | .value s => return .value s
  | .binary l op r => return .binary (← scopeExpr v l) op (← scopeExpr v r)
  | .nested e => return .nested (← scopeExpr v e)
  | .call f rest => return .call f (← scopePieces v rest)
  | .form pieces => return .form (← scopePieces v pieces)

def scopeExprs (v : View) : List Expr → Counted (List Expr)
  | [] => return []
  | e :: es => return (← scopeExpr v e) :: (← scopeExprs v es)

def scopeOption (v : View) : Option Expr → Counted (Option Expr)
  | none => return none
  | some e => return some (← scopeExpr v e)

def scopePiece (v : View) : Piece → Counted Piece
  | .text s => return .text s
  | .expr e => return .expr (← scopeExpr v e)
  | .query q => return .query (← scopeQuery v q)
  | .table t => return .table (← scopeInner v t)

def scopePieces (v : View) : List Piece → Counted (List Piece)
  | [] => return []
  | p :: ps => return (← scopePiece v p) :: (← scopePieces v ps)

/-- Scopes the outermost queries in the expressions of a table that gets no predicate. -/
def scopeInner (v : View) : TableFactor → Counted TableFactor
  | .base name arguments alias? hints =>
    return .base name (← scopePieces v arguments) alias? (← scopePieces v hints)
  | .derived lateral q alias? => return .derived lateral q alias?
  | .nested inner alias? => return .nested (← scopeInnerTable v inner) alias?
  | .other pieces alias? tail =>
    return .other (← scopePieces v pieces) alias? (← scopePieces v tail)

def scopeConstraint (v : View) : JoinConstraint → Counted JoinConstraint
  | .on e => return .on (← scopeExpr v e)
  | .shared columns => return .shared columns
  | .natural => return .natural
  | .none => return .none

def scopeInnerJoins (v : View) : List Join → Counted (List Join)
  | [] => return []
  | { isGlobal, op, relation, matching, constraint } :: js => do
    let relation ← scopeInner v relation
    let matching ← scopeOption v matching
    let constraint ← scopeConstraint v constraint
    return { isGlobal, op, relation, matching, constraint } :: (← scopeInnerJoins v js)

def scopeInnerTable (v : View) : TableWithJoins → Counted TableWithJoins
  | { relation, joins } =>
    return { relation := ← scopeInner v relation, joins := ← scopeInnerJoins v joins }

/-- Scopes a table rows are taken from. The predicates that it needs come along; those of a nested
join are placed inside it as far as possible. -/
def scopeFactor (v : View) (placement : Placement) :
    TableFactor → Counted (TableFactor × List Expr)
  | .base name arguments alias? hints => do
    let arguments ← scopePieces v arguments
    let hints ← scopePieces v hints
    return (.base name arguments alias? hints, ← counted (v.predicates name alias?))
  | .derived lateral q alias? => return (.derived lateral (← scopeQuery v q) alias?, [])
  | .nested inner alias? => do
    let (inner, pending) ← scopeTable v placement inner
    return (.nested inner alias?, pending)
  | .other pieces alias? tail =>
    return (.other (← scopePieces v pieces) alias? (← scopePieces v tail), [])

def scopeJoins (v : View) (placement : Placement) : List Join → Counted (List Join × List Expr)
  | [] => return ([], [])
  | { isGlobal, op, relation, matching, constraint } :: js => do
    let isBase := isBase relation
    let (relation, predicates) ← scopeFactor v placement relation
    let matching ← scopeOption v matching
    let constraint ← scopeConstraint v constraint
    let (constraint, pending) :=
      if isBase then placed placement constraint predicates else (constraint, predicates)
    let (js, others) ← scopeJoins v placement js
    return ({ isGlobal, op, relation, matching, constraint } :: js, pending ++ others)

def scopeTable (v : View) (placement : Placement) :
    TableWithJoins → Counted (TableWithJoins × List Expr)
  | { relation, joins } => do
    let (relation, first) ← scopeFactor v placement relation
    let (joins, others) ← scopeJoins v placement joins
    return ({ relation, joins }, first ++ others)

def scopeTables (v : View) (placement : Placement) :
    List TableWithJoins → Counted (List TableWithJoins × List Expr)
  | [] => return ([], [])
  | t :: ts => do
    let (t, first) ← scopeTable v placement t
    let (ts, others) ← scopeTables v placement ts
    return (t :: ts, first ++ others)

def scopeTableOption (v : View) (placement : Placement) :
    Option TableWithJoins → Counted (Option TableWithJoins × List Expr)
  | none => return (none, [])
  | some t => do
    let (t, pending) ← scopeTable v placement t
    return (some t, pending)

/-- Scopes common tables in order. Each hides the base table of its name from those after it and
from the query; the view that the query sees comes along. -/
def scopeCtes (v : View) : List Cte → Counted (List Cte × View)
  | [] => return ([], v)
  | { given, query, source?, materialized } :: cs => do
    let query ← scopeQuery v query
    let (cs, view) ← scopeCtes (v.withHidden given.name) cs
    return ({ given, query, source?, materialized } :: cs, view)

def scopeKeys (v : View) : List OrderKey → Counted (List OrderKey)
  | [] => return []
  | { key, direction, fill } :: ks => do
    let key ← scopeExpr v key
    let fill ← scopePieces v fill
    return { key, direction, fill } :: (← scopeKeys v ks)

def scopeQuery (v : View) : Query → Counted Query
  | { recursive, ctes, body, orderBy, interpolate, limit, tail } => do
    let (ctes, view) ← scopeCtes v ctes
    let body ← scopeBody view body
    let orderBy ← scopeKeys view orderBy
    let interpolate ← scopePieces view interpolate
    let limit ← scopeOption view limit
    return { recursive, ctes, body, orderBy, interpolate, limit, tail }

def scopeBody (v : View) : Body → Counted Body
  | .select s => return .select (← scopeSelect v s)
  | .setOp l op quantifier r => return .setOp (← scopeBody v l) op quantifier (← scopeBody v r)
  | .query q => return .query (← scopeQuery v q)
  | .rows pieces => return .rows pieces
  | .table s => return .table s
  | .change s => return .change s

def scopeItems (v : View) : List SelectItem → Counted (List SelectItem)
  | [] => return []
  | .expr e alias? :: is => return .expr (← scopeExpr v e) alias? :: (← scopeItems v is)
  | .wildcard qualifier options :: is =>
    return .wildcard qualifier (← scopePieces v options) :: (← scopeItems v is)

def scopeDistinct (v : View) : Distinct → Counted Distinct
  | .none => return .none
  | .rows => return .rows
  | .on keys => return .on (← scopeExprs v keys)

def scopeSelect (v : View) : Select → Counted Select
  | { top, topFirst, distinct, items, into, tables, views, condition, groupAll, groupBy,
      groupModifiers, sorting, having, tail } => do
    let top ← scopePieces v top
    let distinct ← scopeDistinct v distinct
    let items ← scopeItems v items
    let views ← scopePieces v views
    let condition ← scopeOption v condition
    let groupBy ← scopeExprs v groupBy
    let sorting ← scopePieces v sorting
    let having ← scopeOption v having
    let tail ← scopePieces v tail
    let (tables, pending) ← scopeTables v .joinCondition tables
    return { top, topFirst, distinct, items, into, tables, views,
             condition := extended condition pending, groupAll, groupBy, groupModifiers, sorting,
             having, tail }

end

def scopeUpdate (v : View) (u : Update) : Counted Update := do
  let assignments ← scopePieces v u.assignments
  let condition ← scopeOption v u.condition
  let (target, first) ← scopeTable v .statement u.target
  let (source?, others) ← scopeTableOption v .statement u.source?
  return { u with target, assignments, source?, condition := extended condition (first ++ others) }

def scopeDelete (v : View) (d : Delete) : Counted Delete := do
  let condition ← scopeOption v d.condition
  let (targets, first) ← scopeTables v .statement d.targets
  let (sources, others) ← scopeTables v .statement d.sources
  return { d with targets, sources, condition := extended condition (first ++ others) }

def scopeStatement (v : View) : Statement → Counted Statement
  | .query q => return .query (← scopeQuery v q)
  | .update u => return .update (← scopeUpdate v u)
  | .delete d => return .delete (← scopeDelete v d)
  | .other pieces => return .other pieces

def scopeStatements (v : View) (statements : List Statement) : Counted (List Statement) :=
  statements.mapM (scopeStatement v)

end RowFence.Scope
