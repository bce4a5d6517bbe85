import Mathlib.Data.List.Basic
import RowFence.Proofs.Scope.Queries

/-! Scoping a statement scopes each query that it reaches, once and where it stands, and leaves the
others as they are. -/

namespace RowFence.Scope

open Sql

section Predicates

variable (v : View)

lemma exprSeats_grouped (e : Expr) : exprSeats v (grouped e) = exprSeats v e := by
  unfold grouped
  split
  · rfl
  · split
    · rw [exprSeats]
    · rfl

def Seatless (v : View) (preds : List Expr) : Prop := ∀ p ∈ preds, exprSeats v p = []

lemma seatless_predicates (name : Name) (alias? : Option TableAlias) (w : View) :
    Seatless w (v.predicates name alias?) := by
  intro p hp
  unfold View.predicates at hp
  split at hp
  · cases hp
  · rw [List.mem_singleton.mp hp]
    unfold tenantPredicate
    rw [exprSeats, exprSeats, exprSeats, List.nil_append]

variable {v}

lemma Seatless.append {ps qs : List Expr} (hp : Seatless v ps) (hq : Seatless v qs) :
    Seatless v (ps ++ qs) :=
  List.forall_mem_append.mpr ⟨hp, hq⟩

lemma exprSeats_conjoin {p : Expr} (e : Expr) (hp : exprSeats v p = []) :
    exprSeats v (conjoin e p) = exprSeats v e := by
  rw [conjoin, exprSeats, exprSeats_grouped, hp, List.append_nil]

lemma exprSeats_foldl_conjoin {preds : List Expr} (h : Seatless v preds) (e : Expr) :
    exprSeats v (preds.foldl conjoin e) = exprSeats v e := by
  induction preds generalizing e with
  | nil => rfl
  | cons p preds ih =>
    obtain ⟨hp, hpreds⟩ := List.forall_mem_cons.mp h
    rw [List.foldl_cons, ih hpreds, exprSeats_conjoin e hp]

lemma optionSeats_extended {preds : List Expr} (h : Seatless v preds) (e? : Option Expr) :
    optionSeats v (extended e? preds) = optionSeats v e? := by
  induction preds generalizing e? with
  | nil => cases e? <;> rfl
  | cons p preds ih =>
    obtain ⟨hp, hpreds⟩ := List.forall_mem_cons.mp h
    cases e? with
    | none =>
      rw [extended, ih hpreds]
      exact hp
    | some e => rw [extended, ih hpreds, optionSeats, exprSeats_conjoin e hp, optionSeats]

lemma constraintSeats_placed {preds : List Expr} (h : Seatless v preds) (placement : Placement)
    (j : JoinConstraint) :
    constraintSeats v (placed placement j preds).1 = constraintSeats v j ∧
      Seatless v (placed placement j preds).2 := by
  cases placement with
  | statement => exact ⟨rfl, h⟩
  | joinCondition =>
    cases j with
    | on e =>
      refine ⟨?_, fun p hp => nomatch hp⟩
      rw [placed, constraintSeats, constraintSeats, exprSeats_foldl_conjoin h]
    | shared columns => exact ⟨rfl, h⟩
    | natural => exact ⟨rfl, h⟩
    | none => exact ⟨rfl, h⟩

end Predicates

mutual

lemma exprSeats_scoped (v : View) :
    (e : Expr) → exprSeats v (scopeExpr v e).value = (exprSeats v e).map Seat.outcome
  | .name _ => rfl
  | .value _ => rfl
  | .binary l op r => by
    simp only [scopeExpr, Counted.value_bind, Counted.value_pure, exprSeats, List.map_append,
      exprSeats_scoped v l, exprSeats_scoped v r]
  | .nested e => by
    simp only [scopeExpr, Counted.value_bind, Counted.value_pure, exprSeats, exprSeats_scoped v e]
  | .call f rest => by
    simp only [scopeExpr, Counted.value_bind, Counted.value_pure, exprSeats, pieceSeats_scoped v rest]
  | .form pieces => by
    simp only [scopeExpr, Counted.value_bind, Counted.value_pure, exprSeats,
      pieceSeats_scoped v pieces]

lemma exprsSeats_scoped (v : View) :
    (es : List Expr) → exprsSeats v (scopeExprs v es).value = (exprsSeats v es).map Seat.outcome
  | [] => rfl
  | e :: es => by
    simp only [scopeExprs, Counted.value_bind, Counted.value_pure, exprsSeats, List.map_append,
      exprSeats_scoped v e, exprsSeats_scoped v es]

lemma optionSeats_scoped (v : View) : (e? : Option Expr) →
    optionSeats v (scopeOption v e?).value = (optionSeats v e?).map Seat.outcome
  | none => rfl
  | some e => by
    simp only [scopeOption, Counted.value_bind, Counted.value_pure, optionSeats, exprSeats_scoped v e]

lemma pieceSeats_scoped (v : View) : (ps : List Piece) →
    pieceSeats v (scopePieces v ps).value = (pieceSeats v ps).map Seat.outcome
  | [] => rfl
  | .text _ :: ps => by
    simp only [scopePieces, scopePiece, Counted.value_bind, Counted.value_pure, pieceSeats,
      pieceSeats_scoped v ps]
  | .expr e :: ps => by
    simp only [scopePieces, scopePiece, Counted.value_bind, Counted.value_pure, pieceSeats,
      List.map_append, exprSeats_scoped v e, pieceSeats_scoped v ps]
  | .query q :: ps => by
    simp only [scopePieces, scopePiece, Counted.value_bind, Counted.value_pure, pieceSeats,
      List.map_append, querySeats_scoped v q, pieceSeats_scoped v ps]
  | .table _ :: ps => by
    simp only [scopePieces, scopePiece, Counted.value_bind, Counted.value_pure, pieceSeats,
      pieceSeats_scoped v ps]

lemma factorSeats_scoped (v : View) (placement : Placement) : (t : TableFactor) →
    factorSeats v (scopeFactor v placement t).value.1 = (factorSeats v t).map Seat.outcome ∧
      Seatless v (scopeFactor v placement t).value.2
  | .base name arguments alias? hints => by
    simp only [scopeFactor, counted, Counted.value_bind, Counted.value_pure, factorSeats,
      List.map_append, pieceSeats_scoped v arguments, pieceSeats_scoped v hints]
    exact ⟨trivial, seatless_predicates v name alias? v⟩
  | .derived lateral q alias? => by
    simp only [scopeFactor, Counted.value_bind, Counted.value_pure, factorSeats, querySeats_scoped v q]
    exact ⟨trivial, fun p hp => nomatch hp⟩
  | .nested inner alias? => by
    simp only [scopeFactor, Counted.value_bind, Counted.value_pure, factorSeats]
    exact tableSeats_scoped v placement inner
  | .other pieces alias? tail => by
    simp only [scopeFactor, Counted.value_bind, Counted.value_pure, factorSeats, List.map_append,
      pieceSeats_scoped v pieces, pieceSeats_scoped v tail]
    exact ⟨trivial, fun p hp => nomatch hp⟩

lemma constraintSeats_scoped (v : View) : (j : JoinConstraint) →
    constraintSeats v (scopeConstraint v j).value = (constraintSeats v j).map Seat.outcome
  | .on e => by
    simp only [scopeConstraint, Counted.value_bind, Counted.value_pure, constraintSeats,
      exprSeats_scoped v e]
  | .shared _ => rfl
  | .natural => rfl
  | .none => rfl

lemma joinSeats_scoped (v : View) (placement : Placement) : (js : List Join) →
    joinSeats v (scopeJoins v placement js).value.1 = (joinSeats v js).map Seat.outcome ∧
      Seatless v (scopeJoins v placement js).value.2
  | [] => ⟨rfl, fun p hp => nomatch hp⟩
  | { isGlobal, op, relation, matching, constraint } :: js => by
    obtain ⟨hrelation, hpreds⟩ := factorSeats_scoped v placement relation
    obtain ⟨hjoins, hothers⟩ := joinSeats_scoped v placement js
    have hplaced := constraintSeats_placed hpreds placement (scopeConstraint v constraint).value
    simp only [scopeJoins, Counted.value_bind, Counted.value_pure, joinSeats, List.map_append,
      hrelation, hjoins, optionSeats_scoped v matching]
    split
    · rw [hplaced.1, constraintSeats_scoped v constraint]
      exact ⟨rfl, hplaced.2.append hothers⟩
    · rw [constraintSeats_scoped v constraint]
      exact ⟨rfl, hpreds.append hothers⟩

lemma tableSeats_scoped (v : View) (placement : Placement) : (t : TableWithJoins) →
    tableSeats v (scopeTable v placement t).value.1 = (tableSeats v t).map Seat.outcome ∧
      Seatless v (scopeTable v placement t).value.2
  | { relation, joins } => by
    obtain ⟨hrelation, hpreds⟩ := factorSeats_scoped v placement relation
    obtain ⟨hjoins, hothers⟩ := joinSeats_scoped v placement joins
    simp only [scopeTable, Counted.value_bind, Counted.value_pure, tableSeats, List.map_append,
      hrelation, hjoins]
    exact ⟨trivial, hpreds.append hothers⟩

lemma tablesSeats_scoped (v : View) (placement : Placement) : (ts : List TableWithJoins) →
    tablesSeats v (scopeTables v placement ts).value.1 = (tablesSeats v ts).map Seat.outcome ∧
      Seatless v (scopeTables v placement ts).value.2
  | [] => ⟨rfl, fun p hp => nomatch hp⟩
  | t :: ts => by
    obtain ⟨htable, hpreds⟩ := tableSeats_scoped v placement t
    obtain ⟨htables, hothers⟩ := tablesSeats_scoped v placement ts
    simp only [scopeTables, Counted.value_bind, Counted.value_pure, tablesSeats, List.map_append,
      htable, htables]
    exact ⟨trivial, hpreds.append hothers⟩

lemma cteSeats_scoped (v : View) : (cs : List Cte) →
    cteSeats v (scopeCtes v cs).value.1 = (cteSeats v cs).map Seat.outcome
  | [] => rfl
  | { given, query, source?, materialized } :: cs => by
    simp only [scopeCtes, Counted.value_bind, Counted.value_pure, cteSeats, List.map_append,
      querySeats_scoped v query, cteSeats_scoped _ cs]

lemma keySeats_scoped (v : View) : (ks : List OrderKey) →
    keySeats v (scopeKeys v ks).value = (keySeats v ks).map Seat.outcome
  | [] => rfl
  | { key, direction, fill } :: ks => by
    simp only [scopeKeys, Counted.value_bind, Counted.value_pure, keySeats, List.map_append,
      exprSeats_scoped v key, pieceSeats_scoped v fill, keySeats_scoped v ks]

lemma querySeats_scoped (v : View) :
    (q : Query) → querySeats v (scopeQuery v q).value = (querySeats v q).map Seat.outcome
  | { recursive, ctes, body, orderBy, interpolate, limit, tail } => by
    obtain ⟨hafter, hview⟩ := after_scopeCtes v ctes
    simp only [scopeQuery, Counted.value_bind, Counted.value_pure, querySeats, List.map_append,
      List.map_cons, List.map_map, hafter, hview, cteSeats_scoped v ctes, bodySeats_scoped _ body,
      keySeats_scoped _ orderBy, pieceSeats_scoped _ interpolate, optionSeats_scoped _ limit,
      Seat.outcome_comp_unreached, Seat.outcome_reached]

lemma bodySeats_scoped (v : View) :
    (b : Body) → bodySeats v (scopeBody v b).value = (bodySeats v b).map Seat.outcome
  | .select s => by
    simp only [scopeBody, Counted.value_bind, Counted.value_pure, bodySeats, selectSeats_scoped v s]
  | .setOp l op quantifier r => by
    simp only [scopeBody, Counted.value_bind, Counted.value_pure, bodySeats, List.map_append,
      bodySeats_scoped v l, bodySeats_scoped v r]
  | .query q => by
    simp only [scopeBody, Counted.value_bind, Counted.value_pure, bodySeats, querySeats_scoped v q]
  | .rows _ => rfl
  | .table _ => rfl
  | .change _ => rfl

lemma itemSeats_scoped (v : View) : (is : List SelectItem) →
    itemSeats v (scopeItems v is).value = (itemSeats v is).map Seat.outcome
  | [] => rfl
  | .expr e alias? :: is => by
    simp only [scopeItems, Counted.value_bind, Counted.value_pure, itemSeats, List.map_append,
      exprSeats_scoped v e, itemSeats_scoped v is]
  | .wildcard qualifier options :: is => by
    simp only [scopeItems, Counted.value_bind, Counted.value_pure, itemSeats, List.map_append,
      pieceSeats_scoped v options, itemSeats_scoped v is]

lemma distinctSeats_scoped (v : View) : (d : Distinct) →
    distinctSeats v (scopeDistinct v d).value = (distinctSeats v d).map Seat.outcome
  | .none => rfl
  | .rows => rfl
  | .on keys => by
    simp only [scopeDistinct, Counted.value_bind, Counted.value_pure, distinctSeats,
      exprsSeats_scoped v keys]

lemma selectSeats_scoped (v : View) :
    (s : Select) → selectSeats v (scopeSelect v s).value = (selectSeats v s).map Seat.outcome
  | { top, topFirst, distinct, items, into, tables, views, condition, groupAll, groupBy,
      groupModifiers, sorting, having, tail } => by
    obtain ⟨htables, hpending⟩ := tablesSeats_scoped v .joinCondition tables
    simp only [scopeSelect, Counted.value_bind, Counted.value_pure, selectSeats, List.map_append,
      optionSeats_extended hpending, htables, pieceSeats_scoped v top,
      distinctSeats_scoped v distinct, itemSeats_scoped v items, pieceSeats_scoped v views,
      optionSeats_scoped v condition, exprsSeats_scoped v groupBy, pieceSeats_scoped v sorting,
      optionSeats_scoped v having, pieceSeats_scoped v tail]

end

lemma tableOptionSeats_scoped (v : View) (placement : Placement) (t? : Option TableWithJoins) :
    tableOptionSeats v (scopeTableOption v placement t?).value.1 =
        (tableOptionSeats v t?).map Seat.outcome ∧
      Seatless v (scopeTableOption v placement t?).value.2 := by
  cases t? with
  | none => exact ⟨rfl, fun p hp => nomatch hp⟩
  | some t => exact tableSeats_scoped v placement t

lemma statementSeats_scoped (v : View) (s : Statement) :
    statementSeats v (scopeStatement v s).value = (statementSeats v s).map Seat.outcome := by
  cases s with
  | query q =>
    simp only [scopeStatement, Counted.value_bind, Counted.value_pure, statementSeats,
      querySeats_scoped v q]
  | update u =>
    obtain ⟨htarget, hfirst⟩ := tableSeats_scoped v .statement u.target
    obtain ⟨hsource, hothers⟩ := tableOptionSeats_scoped v .statement u.source?
    simp only [scopeStatement, scopeUpdate, Counted.value_bind, Counted.value_pure, statementSeats,
      List.map_append, List.map_map, htarget, hsource, optionSeats_extended (hfirst.append hothers),
      pieceSeats_scoped v u.assignments, optionSeats_scoped v u.condition,
      Seat.outcome_comp_unreached]
  | delete d =>
    obtain ⟨htargets, hfirst⟩ := tablesSeats_scoped v .statement d.targets
    obtain ⟨hsources, hothers⟩ := tablesSeats_scoped v .statement d.sources
    simp only [scopeStatement, scopeDelete, Counted.value_bind, Counted.value_pure, statementSeats,
      List.map_append, List.map_map, htargets, hsources,
      optionSeats_extended (hfirst.append hothers), optionSeats_scoped v d.condition,
      Seat.outcome_comp_unreached]
  | other pieces => rfl

instance : LawfulMonad Counted := LawfulMonad.mk' Counted
  (fun _ => rfl)
  (fun _ _ => congrArg (Counted.mk _) (Nat.zero_add _))
  (fun _ _ _ => congrArg (Counted.mk _) (Nat.add_assoc _ _ _))

lemma value_scopeStatements (v : View) (ss : List Statement) :
    (scopeStatements v ss).value = ss.map fun s => (scopeStatement v s).value := by
  unfold scopeStatements
  induction ss with
  | nil => rfl
  | cons s ss ih =>
    rw [List.mapM_cons, List.map_cons, ← ih]
    rfl

lemma seats_scopeStatements (v : View) (ss : List Statement) :
    seats v (scopeStatements v ss).value = (seats v ss).map Seat.outcome := by
  rw [value_scopeStatements, seats, List.flatMap_map, seats, List.map_flatMap]
  exact List.flatMap_congr fun s _ => statementSeats_scoped v s

/-- Every query of the statements is scoped just in case scoping has nothing to do in those that it
does not reach. -/
theorem seats_scopeStatements_eq_iff (v : View) (ss : List Statement) :
    seats v (scopeStatements v ss).value = (seats v ss).map Seat.scope ↔
      ∀ s ∈ seats v ss, s.reached = false → (scopeQuery s.view s.query).value = s.query := by
  rw [seats_scopeStatements, List.map_inj_left]
  refine forall₂_congr fun s _ => ?_
  obtain ⟨query, view, reached⟩ := s
  cases reached with
  | true => exact ⟨fun _ h => absurd h.symm Bool.false_ne_true, fun _ => rfl⟩
  | false =>
    constructor
    · intro h _
      exact (congrArg Seat.query h).symm
    · intro h
      exact congrArg (Seat.mk · view false) (h rfl).symm

section Offset

def selectFrom (table : String) (items : List SelectItem) : Query where
  recursive := false
  ctes := []
  body := .select
    { top := [], topFirst := false, distinct := .none, items, into := "",
      tables := [⟨.base [⟨table, none⟩] [] none [], []⟩], views := [], condition := none,
      groupAll := false, groupBy := [], groupModifiers := [], sorting := [], having := none,
      tail := [] }
  orderBy := []
  interpolate := []
  limit := none
  tail := []

def countOf (table : String) : Query :=
  selectFrom table [.expr (.call [⟨"COUNT", none⟩] [.text "(*)"]) none]

def offsetOrder : Query :=
  { selectFrom "orders" [.wildcard [] []] with
    limit := some (.value "1")
    tail := [.text " OFFSET ", .expr (.form [.text "(", .query (countOf "items"), .text ")"])] }

def hasCondition (q : Query) : Bool :=
  match q.body with
  | .select s => s.condition.isSome
  | _ => false

theorem seats_offsetOrder :
    let v : View := ⟨.usualEnabled, .one, []⟩
    seats v (scopeStatements v [.query offsetOrder]).value ≠
      (seats v [.query offsetOrder]).map Seat.scope := by
  intro v h
  have hconditions := congrArg (List.map fun s : Seat => hasCondition s.query) h
  exact absurd hconditions (by decide)

end Offset

end RowFence.Scope
