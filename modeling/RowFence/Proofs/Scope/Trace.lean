import Mathlib.Tactic.Lemma
import RowFence.Scope

/-! Scoping with a trace: where the queries stand that are scoped, in the order in which they are,
and where the tables stand that get a predicate. -/

namespace RowFence.Scope

open Sql

/-- A place in a tree: the numbers of the branches on the way up from it. The parts of a construct
are numbered in the order in which they are scoped; a list has its head and its tail for parts. -/
abbrev Place := List Nat

structure Traced (α : Type) where
  value : α
  queries : List Place
  tables : List Place

namespace Traced

variable {α β : Type}

instance : Monad Traced where
  pure a := ⟨a, [], []⟩
  bind m f :=
    ⟨(f m.value).value, m.queries ++ (f m.value).queries, m.tables ++ (f m.value).tables⟩

/-- The result without the trace, where only the number of predicates is known. -/
def counted (t : Traced α) : Counted α := ⟨t.value, t.tables.length⟩

end Traced

/-- The query at a place is handed over to scoping. -/
def hand (here : Place) : Traced Unit := ⟨(), [here], []⟩

/-- The table at a place gets predicates. -/
def predicated (here : Place) (predicates : List Expr) : Traced (List Expr) :=
  ⟨predicates, [], predicates.map fun _ => here⟩

mutual

def traceExpr (v : View) (here : Place) : Expr → Traced Expr
  | .name parts => return .name parts
  | .value s => return .value s
  | .binary l op r =>
    return .binary (← traceExpr v (0 :: here) l) op (← traceExpr v (1 :: here) r)
  | .nested e => return .nested (← traceExpr v (0 :: here) e)
  | .call f rest => return .call f (← tracePieces v (0 :: here) rest)
  | .form pieces => return .form (← tracePieces v (0 :: here) pieces)

def traceExprs (v : View) (here : Place) : List Expr → Traced (List Expr)
  | [] => return []
  | e :: es => return (← traceExpr v (0 :: here) e) :: (← traceExprs v (1 :: here) es)

def traceOption (v : View) (here : Place) : Option Expr → Traced (Option Expr)
  | none => return none
  | some e => return some (← traceExpr v (0 :: here) e)

def tracePiece (v : View) (here : Place) : Piece → Traced Piece
  | .text s => return .text s
  | .expr e => return .expr (← traceExpr v (0 :: here) e)
  | .query q => return .query (← traceQuery v (0 :: here) q)
  | .table t => return .table (← traceInner v (0 :: here) t)

def tracePieces (v : View) (here : Place) : List Piece → Traced (List Piece)
  | [] => return []
  | p :: ps => return (← tracePiece v (0 :: here) p) :: (← tracePieces v (1 :: here) ps)

def traceInner (v : View) (here : Place) : TableFactor → Traced TableFactor
  | .base name arguments alias? hints =>
    return .base name (← tracePieces v (0 :: here) arguments) alias?
      (← tracePieces v (1 :: here) hints)
  | .derived lateral q alias? => return .derived lateral q alias?
  | .nested inner alias? => return .nested (← traceInnerTable v (0 :: here) inner) alias?
  | .other pieces alias? tail =>
    return .other (← tracePieces v (0 :: here) pieces) alias? (← tracePieces v (1 :: here) tail)

def traceConstraint (v : View) (here : Place) : JoinConstraint → Traced JoinConstraint
  | .on e => return .on (← traceExpr v (0 :: here) e)
  | .shared columns => return .shared columns
  | .natural => return .natural
  | .none => return .none

def traceInnerJoins (v : View) (here : Place) : List Join → Traced (List Join)
  | [] => return []
  | { isGlobal, op, relation, matching, constraint } :: js => do
    let relation ← traceInner v (0 :: here) relation
    let matching ← traceOption v (1 :: here) matching
    let constraint ← traceConstraint v (2 :: here) constraint
    return { isGlobal, op, relation, matching, constraint } :: (← traceInnerJoins v (3 :: here) js)

def traceInnerTable (v : View) (here : Place) : TableWithJoins → Traced TableWithJoins
  | { relation, joins } =>
    return { relation := ← traceInner v (0 :: here) relation
             joins := ← traceInnerJoins v (1 :: here) joins }

/-- A table that gets a predicate is told by the place of its name. -/
def traceFactor (v : View) (placement : Placement) (here : Place) :
    TableFactor → Traced (TableFactor × List Expr)
  | .base name arguments alias? hints => do
    let arguments ← tracePieces v (0 :: here) arguments
    let hints ← tracePieces v (1 :: here) hints
    return (.base name arguments alias? hints,
      ← predicated (2 :: here) (v.predicates name alias?))
  | .derived lateral q alias? => return (.derived lateral (← traceQuery v (0 :: here) q) alias?, [])
  | .nested inner alias? => do
    let (inner, pending) ← traceTable v placement (0 :: here) inner
    return (.nested inner alias?, pending)
  | .other pieces alias? tail =>
    return (.other (← tracePieces v (0 :: here) pieces) alias? (← tracePieces v (1 :: here) tail),
      [])

def traceJoins (v : View) (placement : Placement) (here : Place) :
    List Join → Traced (List Join × List Expr)
  | [] => return ([], [])
  | { isGlobal, op, relation, matching, constraint } :: js => do
    let isBase := isBase relation
    let (relation, predicates) ← traceFactor v placement (0 :: here) relation
    let matching ← traceOption v (1 :: here) matching
    let constraint ← traceConstraint v (2 :: here) constraint
    let (constraint, pending) :=
      if isBase then placed placement constraint predicates else (constraint, predicates)
    let (js, others) ← traceJoins v placement (3 :: here) js
    return ({ isGlobal, op, relation, matching, constraint } :: js, pending ++ others)

def traceTable (v : View) (placement : Placement) (here : Place) :
    TableWithJoins → Traced (TableWithJoins × List Expr)
  | { relation, joins } => do
    let (relation, first) ← traceFactor v placement (0 :: here) relation
    let (joins, others) ← traceJoins v placement (1 :: here) joins
    return ({ relation, joins }, first ++ others)

def traceTables (v : View) (placement : Placement) (here : Place) :
    List TableWithJoins → Traced (List TableWithJoins × List Expr)
  | [] => return ([], [])
  | t :: ts => do
    let (t, first) ← traceTable v placement (0 :: here) t
    let (ts, others) ← traceTables v placement (1 :: here) ts
    return (t :: ts, first ++ others)

def traceCtes (v : View) (here : Place) : List Cte → Traced (List Cte × View)
  | [] => return ([], v)
  | { given, query, source?, materialized } :: cs => do
    let query ← traceQuery v (0 :: here) query
    let (cs, view) ← traceCtes (v.withHidden given.name) (1 :: here) cs
    return ({ given, query, source?, materialized } :: cs, view)

def traceKeys (v : View) (here : Place) : List OrderKey → Traced (List OrderKey)
  | [] => return []
  | { key, direction, fill } :: ks => do
    let key ← traceExpr v (0 :: here) key
    let fill ← tracePieces v (1 :: here) fill
    return { key, direction, fill } :: (← traceKeys v (2 :: here) ks)

def traceQuery (v : View) (here : Place) : Query → Traced Query
  | { recursive, ctes, body, orderBy, interpolate, limit, tail } => do
    hand here
    let (ctes, view) ← traceCtes v (0 :: here) ctes
    let body ← traceBody view (1 :: here) body
    let orderBy ← traceKeys view (2 :: here) orderBy
    let interpolate ← tracePieces view (3 :: here) interpolate
    let limit ← traceOption view (4 :: here) limit
    return { recursive, ctes, body, orderBy, interpolate, limit, tail }

def traceBody (v : View) (here : Place) : Body → Traced Body
  | .select s => return .select (← traceSelect v (0 :: here) s)
  | .setOp l op quantifier r =>
    return .setOp (← traceBody v (0 :: here) l) op quantifier (← traceBody v (1 :: here) r)
  | .query q => return .query (← traceQuery v (0 :: here) q)
  | .rows pieces => return .rows pieces
  | .table s => return .table s
  | .change s => return .change s

def traceItems (v : View) (here : Place) : List SelectItem → Traced (List SelectItem)
  | [] => return []
  | .expr e alias? :: is =>
    return .expr (← traceExpr v (0 :: here) e) alias? :: (← traceItems v (1 :: here) is)
  | .wildcard qualifier options :: is =>
    return .wildcard qualifier (← tracePieces v (0 :: here) options)
      :: (← traceItems v (1 :: here) is)

def traceDistinct (v : View) (here : Place) : Distinct → Traced Distinct
  | .none => return .none
  | .rows => return .rows
  | .on keys => return .on (← traceExprs v (0 :: here) keys)

def traceSelect (v : View) (here : Place) : Select → Traced Select
  | { top, topFirst, distinct, items, into, tables, views, condition, groupAll, groupBy,
      groupModifiers, sorting, having, tail } => do
    let top ← tracePieces v (0 :: here) top
    let distinct ← traceDistinct v (1 :: here) distinct
    let items ← traceItems v (2 :: here) items
    let views ← tracePieces v (3 :: here) views
    let condition ← traceOption v (4 :: here) condition
    let groupBy ← traceExprs v (5 :: here) groupBy
    let sorting ← tracePieces v (6 :: here) sorting
    let having ← traceOption v (7 :: here) having
    let tail ← tracePieces v (8 :: here) tail
    let (tables, pending) ← traceTables v .joinCondition (9 :: here) tables
    return { top, topFirst, distinct, items, into, tables, views,
             condition := extended condition pending, groupAll, groupBy, groupModifiers, sorting,
             having, tail }

end

def traceTableOption (v : View) (placement : Placement) (here : Place) :
    Option TableWithJoins → Traced (Option TableWithJoins × List Expr)
  | none => return (none, [])
  | some t => do
    let (t, pending) ← traceTable v placement (0 :: here) t
    return (some t, pending)

def traceUpdate (v : View) (here : Place) (u : Update) : Traced Update := do
  let assignments ← tracePieces v (0 :: here) u.assignments
  let condition ← traceOption v (1 :: here) u.condition
  let (target, first) ← traceTable v .statement (2 :: here) u.target
  let (source?, others) ← traceTableOption v .statement (3 :: here) u.source?
  return { u with target, assignments, source?, condition := extended condition (first ++ others) }

def traceDelete (v : View) (here : Place) (d : Delete) : Traced Delete := do
  let condition ← traceOption v (0 :: here) d.condition
  let (targets, first) ← traceTables v .statement (1 :: here) d.targets
  let (sources, others) ← traceTables v .statement (2 :: here) d.sources
  return { d with targets, sources, condition := extended condition (first ++ others) }

def traceStatement (v : View) (here : Place) : Statement → Traced Statement
  | .query q => return .query (← traceQuery v (0 :: here) q)
  | .update u => return .update (← traceUpdate v (0 :: here) u)
  | .delete d => return .delete (← traceDelete v (0 :: here) d)
  | .other pieces => return .other pieces

def traceStatements (v : View) (here : Place) : List Statement → Traced (List Statement)
  | [] => return []
  | s :: ss => return (← traceStatement v (0 :: here) s) :: (← traceStatements v (1 :: here) ss)

end RowFence.Scope
