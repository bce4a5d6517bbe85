import Mathlib.Tactic.Lemma
import RowFence.Scope

/-! The queries of a statement, and which of them scoping reaches. -/

namespace RowFence.Scope

open Sql

def View.after (v : View) : List Cte → View
  | [] => v
  | c :: cs => after (v.withHidden c.given.name) cs

lemma after_scopeCtes (v : View) (ctes : List Cte) :
    v.after (scopeCtes v ctes).value.1 = v.after ctes ∧ (scopeCtes v ctes).value.2 = v.after ctes := by
  induction ctes generalizing v with
  | nil => exact ⟨rfl, rfl⟩
  | cons cte ctes ih =>
    obtain ⟨given, query, source?, materialized⟩ := cte
    simp only [scopeCtes, Counted.value_bind, Counted.value_pure, View.after]
    exact ih (v.withHidden given.name)

/-- A query where it stands in a statement, with what its scoping depends on there. -/
structure Seat where
  query : Query
  view : View
  reached : Bool

namespace Seat

def scope (s : Seat) : Seat := { s with query := (scopeQuery s.view s.query).value }

def outcome (s : Seat) : Seat := if s.reached then s.scope else s

def unreached (s : Seat) : Seat := { s with reached := false }

lemma outcome_reached (q : Query) (v : View) :
    outcome ⟨q, v, true⟩ = ⟨(scopeQuery v q).value, v, true⟩ := rfl

lemma outcome_comp_unreached : outcome ∘ unreached = unreached := rfl

end Seat

mutual

def exprSeats (v : View) : Expr → List Seat
  | .name _ => []
  | .value _ => []
  | .binary l _ r => exprSeats v l ++ exprSeats v r
  | .nested e => exprSeats v e
  | .call _ rest => pieceSeats v rest
  | .form pieces => pieceSeats v pieces

def exprsSeats (v : View) : List Expr → List Seat
  | [] => []
  | e :: es => exprSeats v e ++ exprsSeats v es

def optionSeats (v : View) : Option Expr → List Seat
  | none => []
  | some e => exprSeats v e

/-- Tables inside a phrase belong to a table of another kind, which is opaque to scoping. -/
def pieceSeats (v : View) : List Piece → List Seat
  | [] => []
  | .text _ :: ps => pieceSeats v ps
  | .expr e :: ps => exprSeats v e ++ pieceSeats v ps
  | .query q :: ps => querySeats v q ++ pieceSeats v ps
  | .table _ :: ps => pieceSeats v ps

def factorSeats (v : View) : TableFactor → List Seat
  | .base _ arguments _ hints => pieceSeats v arguments ++ pieceSeats v hints
  | .derived _ q _ => querySeats v q
  | .nested inner _ => tableSeats v inner
  | .other pieces _ tail => pieceSeats v pieces ++ pieceSeats v tail

def constraintSeats (v : View) : JoinConstraint → List Seat
  | .on e => exprSeats v e
  | .shared _ => []
  | .natural => []
  | .none => []

def joinSeats (v : View) : List Join → List Seat
  | [] => []
  | { relation, matching, constraint, .. } :: js =>
    factorSeats v relation ++ optionSeats v matching ++ constraintSeats v constraint
      ++ joinSeats v js

def tableSeats (v : View) : TableWithJoins → List Seat
  | { relation, joins } => factorSeats v relation ++ joinSeats v joins

def tablesSeats (v : View) : List TableWithJoins → List Seat
  | [] => []
  | t :: ts => tableSeats v t ++ tablesSeats v ts

def cteSeats (v : View) : List Cte → List Seat
  | [] => []
  | { given, query, .. } :: cs => querySeats v query ++ cteSeats (v.withHidden given.name) cs

def keySeats (v : View) : List OrderKey → List Seat
  | [] => []
  | { key, fill, .. } :: ks => exprSeats v key ++ pieceSeats v fill ++ keySeats v ks

/-- The query itself first. Its clauses after the limit are not reached. -/
def querySeats (v : View) (q : Query) : List Seat :=
  match q with
  | { ctes, body, orderBy, interpolate, limit, tail, .. } =>
    let inner := v.after ctes
    ⟨q, v, true⟩ :: (cteSeats v ctes ++ bodySeats inner body ++ keySeats inner orderBy
      ++ pieceSeats inner interpolate ++ optionSeats inner limit
      ++ (pieceSeats inner tail).map Seat.unreached)

/-- Bodies without a FROM clause of their own are left unscoped with all that is in them. -/
def bodySeats (v : View) : Body → List Seat
  | .select s => selectSeats v s
  | .setOp l _ _ r => bodySeats v l ++ bodySeats v r
  | .query q => querySeats v q
  | .rows _ => []
  | .table _ => []
  | .change _ => []

def itemSeats (v : View) : List SelectItem → List Seat
  | [] => []
  | .expr e _ :: is => exprSeats v e ++ itemSeats v is
  | .wildcard _ options :: is => pieceSeats v options ++ itemSeats v is

def distinctSeats (v : View) : Distinct → List Seat
  | .none => []
  | .rows => []
  | .on keys => exprsSeats v keys

def selectSeats (v : View) : Select → List Seat
  | { top, distinct, items, tables, views, condition, groupBy, sorting, having, tail, .. } =>
    pieceSeats v top ++ distinctSeats v distinct ++ itemSeats v items ++ tablesSeats v tables
      ++ pieceSeats v views ++ optionSeats v condition ++ exprsSeats v groupBy
      ++ pieceSeats v sorting ++ optionSeats v having ++ pieceSeats v tail

end

def tableOptionSeats (v : View) : Option TableWithJoins → List Seat
  | none => []
  | some t => tableSeats v t

/-- What an `UPDATE` returns and what follows the condition of a `DELETE` are not reached. -/
def statementSeats (v : View) : Statement → List Seat
  | .query q => querySeats v q
  | .update u =>
    tableSeats v u.target ++ pieceSeats v u.assignments ++ tableOptionSeats v u.source?
      ++ optionSeats v u.condition ++ (pieceSeats v u.returning).map Seat.unreached
  | .delete d =>
    tablesSeats v d.targets ++ tablesSeats v d.sources ++ optionSeats v d.condition
      ++ (pieceSeats v d.tail).map Seat.unreached
  | .other _ => []

def seats (v : View) (statements : List Statement) : List Seat :=
  statements.flatMap (statementSeats v)

end RowFence.Scope
