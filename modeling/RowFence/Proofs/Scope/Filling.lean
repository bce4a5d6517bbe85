import Mathlib.Tactic.Lemma
import RowFence.Scope

/-! Statements with given predicates in their slots, which are the WHERE conditions of queries and row
changes and the ON conditions of joins. Nothing else of a statement changes. -/

namespace RowFence.Scope

open Sql

/-- The predicates for each slot that is met from here on. -/
abbrev Filler := StateT (List (List Expr)) Option

def nextPredicates : Filler (List Expr) := fun
  | [] => none
  | predicates :: rest => some (predicates, rest)

mutual

def fillExpr : Expr → Filler Expr
  | .name parts => return .name parts
  | .value s => return .value s
  | .binary l op r => return .binary (← fillExpr l) op (← fillExpr r)
  | .nested e => return .nested (← fillExpr e)
  | .call f rest => return .call f (← fillPieces rest)
  | .form pieces => return .form (← fillPieces pieces)

def fillExprs : List Expr → Filler (List Expr)
  | [] => return []
  | e :: es => return (← fillExpr e) :: (← fillExprs es)

def fillOption : Option Expr → Filler (Option Expr)
  | none => return none
  | some e => return some (← fillExpr e)

def fillPiece : Piece → Filler Piece
  | .text s => return .text s
  | .expr e => return .expr (← fillExpr e)
  | .query q => return .query (← fillQuery q)
  | .table t => return .table (← fillFactor false t)

def fillPieces : List Piece → Filler (List Piece)
  | [] => return []
  | p :: ps => return (← fillPiece p) :: (← fillPieces ps)

/-- Subqueries of a table inside another construct are left alone. -/
def fillFactor (entersQueries : Bool) : TableFactor → Filler TableFactor
  | .base name arguments alias? hints =>
    return .base name (← fillPieces arguments) alias? (← fillPieces hints)
  | .derived lateral q alias? =>
    if entersQueries then return .derived lateral (← fillQuery q) alias?
    else return .derived lateral q alias?
  | .nested inner alias? => return .nested (← fillTable entersQueries inner) alias?
  | .other pieces alias? tail => return .other (← fillPieces pieces) alias? (← fillPieces tail)

def fillConstraint : JoinConstraint → Filler JoinConstraint
  | .on e => do
    let e ← fillExpr e
    return .on ((← nextPredicates).foldl conjoin e)
  | .shared columns => return .shared columns
  | .natural => return .natural
  | .none => return .none

def fillJoins (entersQueries : Bool) : List Join → Filler (List Join)
  | [] => return []
  | { isGlobal, op, relation, matching, constraint } :: js => do
    let relation ← fillFactor entersQueries relation
    let matching ← fillOption matching
    let constraint ← fillConstraint constraint
    return { isGlobal, op, relation, matching, constraint } :: (← fillJoins entersQueries js)

def fillTable (entersQueries : Bool) : TableWithJoins → Filler TableWithJoins
  | { relation, joins } =>
    return { relation := ← fillFactor entersQueries relation
             joins := ← fillJoins entersQueries joins }

def fillTables : List TableWithJoins → Filler (List TableWithJoins)
  | [] => return []
  | t :: ts => return (← fillTable true t) :: (← fillTables ts)

def fillCtes : List Cte → Filler (List Cte)
  | [] => return []
  | { given, query, source?, materialized } :: cs => do
    let query ← fillQuery query
    return { given, query, source?, materialized } :: (← fillCtes cs)

def fillKeys : List OrderKey → Filler (List OrderKey)
  | [] => return []
  | { key, direction, fill } :: ks => do
    let key ← fillExpr key
    let fill ← fillPieces fill
    return { key, direction, fill } :: (← fillKeys ks)

def fillQuery : Query → Filler Query
  | { recursive, ctes, body, orderBy, interpolate, limit, tail } => do
    let ctes ← fillCtes ctes
    let body ← fillBody body
    let orderBy ← fillKeys orderBy
    let interpolate ← fillPieces interpolate
    let limit ← fillOption limit
    return { recursive, ctes, body, orderBy, interpolate, limit, tail }

def fillBody : Body → Filler Body
  | .select s => return .select (← fillSelect s)
  | .setOp l op quantifier r => return .setOp (← fillBody l) op quantifier (← fillBody r)
  | .query q => return .query (← fillQuery q)
  | .rows pieces => return .rows pieces
  | .table s => return .table s
  | .change s => return .change s

def fillItems : List SelectItem → Filler (List SelectItem)
  | [] => return []
  | .expr e alias? :: is => return .expr (← fillExpr e) alias? :: (← fillItems is)
  | .wildcard qualifier options :: is =>
    return .wildcard qualifier (← fillPieces options) :: (← fillItems is)

def fillDistinct : Distinct → Filler Distinct
  | .none => return .none
  | .rows => return .rows
  | .on keys => return .on (← fillExprs keys)

def fillSelect : Select → Filler Select
  | { top, topFirst, distinct, items, into, tables, views, condition, groupAll, groupBy,
      groupModifiers, sorting, having, tail } => do
    let top ← fillPieces top
    let distinct ← fillDistinct distinct
    let items ← fillItems items
    let views ← fillPieces views
    let condition ← fillOption condition
    let groupBy ← fillExprs groupBy
    let sorting ← fillPieces sorting
    let having ← fillOption having
    let tail ← fillPieces tail
    let tables ← fillTables tables
    return { top, topFirst, distinct, items, into, tables, views,
             condition := extended condition (← nextPredicates), groupAll, groupBy, groupModifiers,
             sorting, having, tail }

end

def fillTableOption : Option TableWithJoins → Filler (Option TableWithJoins)
  | none => return none
  | some t => return some (← fillTable true t)

def fillUpdate (u : Update) : Filler Update := do
  let assignments ← fillPieces u.assignments
  let condition ← fillOption u.condition
  let target ← fillTable true u.target
  let source? ← fillTableOption u.source?
  return { u with target, assignments, source?, condition := extended condition (← nextPredicates) }

def fillDelete (d : Delete) : Filler Delete := do
  let condition ← fillOption d.condition
  let targets ← fillTables d.targets
  let sources ← fillTables d.sources
  return { d with targets, sources, condition := extended condition (← nextPredicates) }

def fillStatement : Statement → Filler Statement
  | .query q => return .query (← fillQuery q)
  | .update u => return .update (← fillUpdate u)
  | .delete d => return .delete (← fillDelete d)
  | .other pieces => return .other pieces

def fillStatements : List Statement → Filler (List Statement)
  | [] => return []
  | s :: ss => return (← fillStatement s) :: (← fillStatements ss)

end RowFence.Scope
