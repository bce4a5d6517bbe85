import Mathlib.Data.List.Nodup
import RowFence.Proofs.Scope.Additions
import RowFence.Proofs.Scope.Trace

/-! Scoping hands over no query twice and gives no table a second predicate. -/

namespace RowFence.Scope

open Sql

section Counting

namespace Traced

variable {α β : Type}

@[simp] lemma counted_pure (a : α) : (pure a : Traced α).counted = pure a := rfl

@[simp] lemma counted_bind (m : Traced α) (f : α → Traced β) :
    (m >>= f).counted = m.counted >>= fun a => (f a).counted :=
  congrArg (Counted.mk _) (List.length_append)

end Traced

lemma counted_hand (here : Place) : (hand here).counted = pure () := rfl

lemma counted_predicated (here : Place) (predicates : List Expr) :
    (predicated here predicates).counted = counted predicates :=
  congrArg (Counted.mk _) (List.length_map _)

mutual

lemma counted_traceExpr (v : View) (here : Place) :
    (e : Expr) → (traceExpr v here e).counted = scopeExpr v e
  | .name _ => rfl
  | .value _ => rfl
  | .binary l op r => by
    simp only [traceExpr, scopeExpr, Traced.counted_bind, Traced.counted_pure,
      counted_traceExpr v _ l, counted_traceExpr v _ r]
  | .nested e => by
    simp only [traceExpr, scopeExpr, Traced.counted_bind, Traced.counted_pure,
      counted_traceExpr v _ e]
  | .call f rest => by
    simp only [traceExpr, scopeExpr, Traced.counted_bind, Traced.counted_pure,
      counted_tracePieces v _ rest]
  | .form pieces => by
    simp only [traceExpr, scopeExpr, Traced.counted_bind, Traced.counted_pure,
      counted_tracePieces v _ pieces]

lemma counted_traceExprs (v : View) (here : Place) :
    (es : List Expr) → (traceExprs v here es).counted = scopeExprs v es
  | [] => rfl
  | e :: es => by
    simp only [traceExprs, scopeExprs, Traced.counted_bind, Traced.counted_pure,
      counted_traceExpr v _ e, counted_traceExprs v _ es]

lemma counted_traceOption (v : View) (here : Place) :
    (e? : Option Expr) → (traceOption v here e?).counted = scopeOption v e?
  | none => rfl
  | some e => by
    simp only [traceOption, scopeOption, Traced.counted_bind, Traced.counted_pure,
      counted_traceExpr v _ e]

lemma counted_tracePiece (v : View) (here : Place) :
    (p : Piece) → (tracePiece v here p).counted = scopePiece v p
  | .text _ => rfl
  | .expr e => by
    simp only [tracePiece, scopePiece, Traced.counted_bind, Traced.counted_pure,
      counted_traceExpr v _ e]
  | .query q => by
    simp only [tracePiece, scopePiece, Traced.counted_bind, Traced.counted_pure,
      counted_traceQuery v _ q]
  | .table t => by
    simp only [tracePiece, scopePiece, Traced.counted_bind, Traced.counted_pure,
      counted_traceInner v _ t]

lemma counted_tracePieces (v : View) (here : Place) :
    (ps : List Piece) → (tracePieces v here ps).counted = scopePieces v ps
  | [] => rfl
  | p :: ps => by
    simp only [tracePieces, scopePieces, Traced.counted_bind, Traced.counted_pure,
      counted_tracePiece v _ p, counted_tracePieces v _ ps]

lemma counted_traceInner (v : View) (here : Place) :
    (t : TableFactor) → (traceInner v here t).counted = scopeInner v t
  | .base name arguments alias? hints => by
    simp only [traceInner, scopeInner, Traced.counted_bind, Traced.counted_pure,
      counted_tracePieces v _ arguments, counted_tracePieces v _ hints]
  | .derived _ _ _ => rfl
  | .nested inner alias? => by
    simp only [traceInner, scopeInner, Traced.counted_bind, Traced.counted_pure,
      counted_traceInnerTable v _ inner]
  | .other pieces alias? tail => by
    simp only [traceInner, scopeInner, Traced.counted_bind, Traced.counted_pure,
      counted_tracePieces v _ pieces, counted_tracePieces v _ tail]

lemma counted_traceConstraint (v : View) (here : Place) :
    (j : JoinConstraint) → (traceConstraint v here j).counted = scopeConstraint v j
  | .on e => by
    simp only [traceConstraint, scopeConstraint, Traced.counted_bind, Traced.counted_pure,
      counted_traceExpr v _ e]
  | .shared _ => rfl
  | .natural => rfl
  | .none => rfl

lemma counted_traceInnerJoins (v : View) (here : Place) :
    (js : List Join) → (traceInnerJoins v here js).counted = scopeInnerJoins v js
  | [] => rfl
  | { isGlobal, op, relation, matching, constraint } :: js => by
    simp only [traceInnerJoins, scopeInnerJoins, Traced.counted_bind, Traced.counted_pure,
      counted_traceInner v _ relation, counted_traceOption v _ matching,
      counted_traceConstraint v _ constraint, counted_traceInnerJoins v _ js]

lemma counted_traceInnerTable (v : View) (here : Place) :
    (t : TableWithJoins) → (traceInnerTable v here t).counted = scopeInnerTable v t
  | { relation, joins } => by
    simp only [traceInnerTable, scopeInnerTable, Traced.counted_bind, Traced.counted_pure,
      counted_traceInner v _ relation, counted_traceInnerJoins v _ joins]

lemma counted_traceFactor (v : View) (placement : Placement) (here : Place) :
    (t : TableFactor) → (traceFactor v placement here t).counted = scopeFactor v placement t
  | .base name arguments alias? hints => by
    simp only [traceFactor, scopeFactor, Traced.counted_bind, Traced.counted_pure,
      counted_tracePieces v _ arguments, counted_tracePieces v _ hints, counted_predicated]
  | .derived lateral q alias? => by
    simp only [traceFactor, scopeFactor, Traced.counted_bind, Traced.counted_pure,
      counted_traceQuery v _ q]
  | .nested inner alias? => by
    simp only [traceFactor, scopeFactor, Traced.counted_bind, Traced.counted_pure,
      counted_traceTable v placement _ inner]
  | .other pieces alias? tail => by
    simp only [traceFactor, scopeFactor, Traced.counted_bind, Traced.counted_pure,
      counted_tracePieces v _ pieces, counted_tracePieces v _ tail]

lemma counted_traceJoins (v : View) (placement : Placement) (here : Place) :
    (js : List Join) → (traceJoins v placement here js).counted = scopeJoins v placement js
  | [] => rfl
  | { isGlobal, op, relation, matching, constraint } :: js => by
    simp only [traceJoins, scopeJoins, Traced.counted_bind, Traced.counted_pure,
      counted_traceFactor v placement _ relation, counted_traceOption v _ matching,
      counted_traceConstraint v _ constraint, counted_traceJoins v placement _ js]

lemma counted_traceTable (v : View) (placement : Placement) (here : Place) :
    (t : TableWithJoins) → (traceTable v placement here t).counted = scopeTable v placement t
  | { relation, joins } => by
    simp only [traceTable, scopeTable, Traced.counted_bind, Traced.counted_pure,
      counted_traceFactor v placement _ relation, counted_traceJoins v placement _ joins]

lemma counted_traceTables (v : View) (placement : Placement) (here : Place) :
    (ts : List TableWithJoins) → (traceTables v placement here ts).counted = scopeTables v placement ts
  | [] => rfl
  | t :: ts => by
    simp only [traceTables, scopeTables, Traced.counted_bind, Traced.counted_pure,
      counted_traceTable v placement _ t, counted_traceTables v placement _ ts]

lemma counted_traceCtes (v : View) (here : Place) :
    (cs : List Cte) → (traceCtes v here cs).counted = scopeCtes v cs
  | [] => rfl
  | { given, query, source?, materialized } :: cs => by
    simp only [traceCtes, scopeCtes, Traced.counted_bind, Traced.counted_pure,
      counted_traceQuery v _ query, counted_traceCtes _ _ cs]

lemma counted_traceKeys (v : View) (here : Place) :
    (ks : List OrderKey) → (traceKeys v here ks).counted = scopeKeys v ks
  | [] => rfl
  | { key, direction, fill } :: ks => by
    simp only [traceKeys, scopeKeys, Traced.counted_bind, Traced.counted_pure,
      counted_traceExpr v _ key, counted_tracePieces v _ fill, counted_traceKeys v _ ks]

lemma counted_traceQuery (v : View) (here : Place) :
    (q : Query) → (traceQuery v here q).counted = scopeQuery v q
  | { recursive, ctes, body, orderBy, interpolate, limit, tail } => by
    simp only [traceQuery, scopeQuery, Traced.counted_bind, Traced.counted_pure, counted_hand,
      pure_bind, counted_traceCtes v _ ctes, counted_traceBody _ _ body,
      counted_traceKeys _ _ orderBy, counted_tracePieces _ _ interpolate,
      counted_traceOption _ _ limit]

lemma counted_traceBody (v : View) (here : Place) :
    (b : Body) → (traceBody v here b).counted = scopeBody v b
  | .select s => by
    simp only [traceBody, scopeBody, Traced.counted_bind, Traced.counted_pure,
      counted_traceSelect v _ s]
  | .setOp l op quantifier r => by
    simp only [traceBody, scopeBody, Traced.counted_bind, Traced.counted_pure,
      counted_traceBody v _ l, counted_traceBody v _ r]
  | .query q => by
    simp only [traceBody, scopeBody, Traced.counted_bind, Traced.counted_pure,
      counted_traceQuery v _ q]
  | .rows _ => rfl
  | .table _ => rfl
  | .change _ => rfl

lemma counted_traceItems (v : View) (here : Place) :
    (is : List SelectItem) → (traceItems v here is).counted = scopeItems v is
  | [] => rfl
  | .expr e alias? :: is => by
    simp only [traceItems, scopeItems, Traced.counted_bind, Traced.counted_pure,
      counted_traceExpr v _ e, counted_traceItems v _ is]
  | .wildcard qualifier options :: is => by
    simp only [traceItems, scopeItems, Traced.counted_bind, Traced.counted_pure,
      counted_tracePieces v _ options, counted_traceItems v _ is]

lemma counted_traceDistinct (v : View) (here : Place) :
    (d : Distinct) → (traceDistinct v here d).counted = scopeDistinct v d
  | .none => rfl
  | .rows => rfl
  | .on keys => by
    simp only [traceDistinct, scopeDistinct, Traced.counted_bind, Traced.counted_pure,
      counted_traceExprs v _ keys]

lemma counted_traceSelect (v : View) (here : Place) :
    (s : Select) → (traceSelect v here s).counted = scopeSelect v s
  | { top, topFirst, distinct, items, into, tables, views, condition, groupAll, groupBy,
      groupModifiers, sorting, having, tail } => by
    simp only [traceSelect, scopeSelect, Traced.counted_bind, Traced.counted_pure,
      counted_tracePieces v _ top, counted_traceDistinct v _ distinct,
      counted_traceItems v _ items, counted_tracePieces v _ views,
      counted_traceOption v _ condition, counted_traceExprs v _ groupBy,
      counted_tracePieces v _ sorting, counted_traceOption v _ having,
      counted_tracePieces v _ tail, counted_traceTables v _ _ tables]

end

lemma counted_traceTableOption (v : View) (placement : Placement) (here : Place)
    (t? : Option TableWithJoins) :
    (traceTableOption v placement here t?).counted = scopeTableOption v placement t? := by
  cases t? with
  | none => rfl
  | some t =>
    simp only [traceTableOption, scopeTableOption, Traced.counted_bind, Traced.counted_pure,
      counted_traceTable]

lemma counted_traceStatement (v : View) (here : Place) (s : Statement) :
    (traceStatement v here s).counted = scopeStatement v s := by
  cases s with
  | query q =>
    simp only [traceStatement, scopeStatement, Traced.counted_bind, Traced.counted_pure,
      counted_traceQuery]
  | update u =>
    simp only [traceStatement, scopeStatement, traceUpdate, scopeUpdate, Traced.counted_bind,
      Traced.counted_pure, counted_tracePieces, counted_traceOption, counted_traceTable,
      counted_traceTableOption]
  | delete d =>
    simp only [traceStatement, scopeStatement, traceDelete, scopeDelete, Traced.counted_bind,
      Traced.counted_pure, counted_traceOption, counted_traceTables]
  | other pieces => rfl

lemma counted_traceStatements (v : View) (here : Place) (ss : List Statement) :
    (traceStatements v here ss).counted = scopeStatements v ss := by
  induction ss generalizing here with
  | nil => rfl
  | cons s ss ih =>
    rw [scopeStatements, List.mapM_cons]
    simp only [traceStatements, Traced.counted_bind, Traced.counted_pure, counted_traceStatement,
      ih, scopeStatements]

end Counting

section Places

/-- Distinct places at or below `here`. -/
def Under (here : Place) (places : List Place) : Prop :=
  places.Nodup ∧ ∀ p ∈ places, here <:+ p

/-- Distinct places below the branches of `here` from number `n` on. -/
def Beyond (here : Place) (n : Nat) (places : List Place) : Prop :=
  places.Nodup ∧ ∀ p ∈ places, ∃ i ≥ n, i :: here <:+ p

lemma branch_eq {here p : Place} {i j : Nat} (hi : i :: here <:+ p) (hj : j :: here <:+ p) :
    i = j := by
  have hsuffix : i :: here <:+ j :: here := List.suffix_of_suffix_length_le hi hj (Nat.le_refl _)
  exact (List.cons.inj (hsuffix.eq_of_length rfl)).1

lemma Beyond.nil (here : Place) (n : Nat) : Beyond here n [] :=
  ⟨List.nodup_nil, fun _ h => nomatch h⟩

/-- The places of a branch before those of later branches. -/
lemma Under.append {here : Place} {n : Nat} {first others : List Place}
    (hfirst : Under (n :: here) first) (hothers : Beyond here (n + 1) others) :
    Beyond here n (first ++ others) := by
  refine ⟨List.Nodup.append hfirst.1 hothers.1 fun p hp hother => ?_, fun p hp => ?_⟩
  · obtain ⟨i, hi, hip⟩ := hothers.2 p hother
    have hni : n = i := branch_eq (hfirst.2 p hp) hip
    omega
  · rcases List.mem_append.mp hp with hp | hp
    · exact ⟨n, Nat.le_refl n, hfirst.2 p hp⟩
    · obtain ⟨i, hi, hip⟩ := hothers.2 p hp
      exact ⟨i, by omega, hip⟩

lemma Beyond.under {here : Place} {n : Nat} {places : List Place} (h : Beyond here n places) :
    Under here places := by
  refine ⟨h.1, fun p hp => ?_⟩
  obtain ⟨i, -, hip⟩ := h.2 p hp
  exact (List.suffix_cons i here).trans hip

lemma Beyond.here_cons {here : Place} {n : Nat} {places : List Place} (h : Beyond here n places) :
    Under here (here :: places) := by
  refine ⟨List.nodup_cons.mpr ⟨fun hmem => ?_, h.1⟩, ?_⟩
  · obtain ⟨i, -, hi⟩ := h.2 here hmem
    have hlength := hi.length_le
    rw [List.length_cons] at hlength
    omega
  · rintro p (_ | ⟨_, hp⟩)
    · exact List.suffix_refl here
    · exact h.under.2 p hp

/-- No place comes twice in a trace, and all are at or below `here`. -/
structure Traced.Fresh {α : Type} (here : Place) (t : Traced α) : Prop where
  queries : Under here t.queries
  tables : Under here t.tables

/-- The same for a trace that is below the branches of `here` from number `n` on. -/
structure Traced.Branches {α : Type} (here : Place) (n : Nat) (t : Traced α) : Prop where
  queries : Beyond here n t.queries
  tables : Beyond here n t.tables

namespace Traced

variable {α β : Type} {here : Place} {n : Nat}

lemma Branches.pure (a : α) : Branches here n (Pure.pure a : Traced α) :=
  ⟨.nil here n, .nil here n⟩

lemma Fresh.parts {t : Traced α} (h : Branches here n t) : Fresh here t :=
  ⟨h.queries.under, h.tables.under⟩

lemma Fresh.bind {m : Traced α} {f : α → Traced β} (hm : Fresh (n :: here) m)
    (hf : Branches here (n + 1) (f m.value)) : Branches here n (m >>= f) :=
  ⟨hm.queries.append hf.queries, hm.tables.append hf.tables⟩

/-- The last part of a construct. -/
lemma Fresh.last {m : Traced α} (f : α → β) (hm : Fresh (n :: here) m) :
    Branches here n (m >>= fun a => Pure.pure (f a)) :=
  hm.bind (Branches.pure _)

lemma fresh_pure (a : α) : Fresh here (Pure.pure a : Traced α) := .parts (n := 0) (.pure a)

lemma fresh_hand {f : Unit → Traced α} (h : Branches here n (f ())) :
    Fresh here (hand here >>= f) :=
  ⟨h.queries.here_cons, h.tables.under⟩

end Traced

lemma fresh_predicated (v : View) (here : Place) (name : Name) (alias? : Option TableAlias) :
    (predicated here (v.predicates name alias?)).Fresh here := by
  refine ⟨⟨List.nodup_nil, fun _ h => nomatch h⟩, ?_⟩
  unfold View.predicates
  split
  · exact ⟨List.nodup_nil, fun _ h => nomatch h⟩
  · refine ⟨List.nodup_singleton here, fun p hp => ?_⟩
    obtain rfl := List.mem_singleton.mp hp
    exact List.suffix_refl p

mutual

lemma fresh_traceExpr (v : View) (here : Place) :
    (e : Expr) → (traceExpr v here e).Fresh here
  | .name _ => Traced.fresh_pure _
  | .value _ => Traced.fresh_pure _
  | .binary l op r => by
    rw [traceExpr]
    exact .parts ((fresh_traceExpr v (0 :: here) l).bind ((fresh_traceExpr v (1 :: here) r).last
      _))
  | .nested e => by
    rw [traceExpr]
    exact .parts ((fresh_traceExpr v (0 :: here) e).last _)
  | .call f rest => by
    rw [traceExpr]
    exact .parts ((fresh_tracePieces v (0 :: here) rest).last _)
  | .form pieces => by
    rw [traceExpr]
    exact .parts ((fresh_tracePieces v (0 :: here) pieces).last _)

lemma fresh_traceExprs (v : View) (here : Place) :
    (es : List Expr) → (traceExprs v here es).Fresh here
  | [] => Traced.fresh_pure _
  | e :: es => by
    rw [traceExprs]
    exact .parts ((fresh_traceExpr v (0 :: here) e).bind ((fresh_traceExprs v (1 :: here)
      es).last _))

lemma fresh_traceOption (v : View) (here : Place) :
    (e? : Option Expr) → (traceOption v here e?).Fresh here
  | none => Traced.fresh_pure _
  | some e => by
    rw [traceOption]
    exact .parts ((fresh_traceExpr v (0 :: here) e).last _)

lemma fresh_tracePiece (v : View) (here : Place) :
    (p : Piece) → (tracePiece v here p).Fresh here
  | .text _ => Traced.fresh_pure _
  | .expr e => by
    rw [tracePiece]
    exact .parts ((fresh_traceExpr v (0 :: here) e).last _)
  | .query q => by
    rw [tracePiece]
    exact .parts ((fresh_traceQuery v (0 :: here) q).last _)
  | .table t => by
    rw [tracePiece]
    exact .parts ((fresh_traceInner v (0 :: here) t).last _)

lemma fresh_tracePieces (v : View) (here : Place) :
    (ps : List Piece) → (tracePieces v here ps).Fresh here
  | [] => Traced.fresh_pure _
  | p :: ps => by
    rw [tracePieces]
    exact .parts ((fresh_tracePiece v (0 :: here) p).bind ((fresh_tracePieces v (1 :: here)
      ps).last _))

lemma fresh_traceInner (v : View) (here : Place) :
    (t : TableFactor) → (traceInner v here t).Fresh here
  | .base name arguments alias? hints => by
    rw [traceInner]
    exact .parts ((fresh_tracePieces v (0 :: here) arguments).bind ((fresh_tracePieces v (1 ::
      here) hints).last _))
  | .derived lateral q alias? => by
    rw [traceInner]
    exact Traced.fresh_pure _
  | .nested inner alias? => by
    rw [traceInner]
    exact .parts ((fresh_traceInnerTable v (0 :: here) inner).last _)
  | .other pieces alias? tail => by
    rw [traceInner]
    exact .parts ((fresh_tracePieces v (0 :: here) pieces).bind ((fresh_tracePieces v (1 :: here)
      tail).last _))

lemma fresh_traceConstraint (v : View) (here : Place) :
    (j : JoinConstraint) → (traceConstraint v here j).Fresh here
  | .on e => by
    rw [traceConstraint]
    exact .parts ((fresh_traceExpr v (0 :: here) e).last _)
  | .shared _ => Traced.fresh_pure _
  | .natural => Traced.fresh_pure _
  | .none => Traced.fresh_pure _

lemma fresh_traceInnerJoins (v : View) (here : Place) :
    (js : List Join) → (traceInnerJoins v here js).Fresh here
  | [] => Traced.fresh_pure _
  | { isGlobal, op, relation, matching, constraint } :: js => by
    rw [traceInnerJoins]
    exact .parts ((fresh_traceInner v (0 :: here) relation).bind ((fresh_traceOption v (1 ::
      here) matching).bind ((fresh_traceConstraint v (2 :: here) constraint).bind
      ((fresh_traceInnerJoins v (3 :: here) js).last _))))

lemma fresh_traceInnerTable (v : View) (here : Place) :
    (t : TableWithJoins) → (traceInnerTable v here t).Fresh here
  | { relation, joins } => by
    rw [traceInnerTable]
    exact .parts ((fresh_traceInner v (0 :: here) relation).bind ((fresh_traceInnerJoins v (1 ::
      here) joins).last _))

lemma fresh_traceFactor (v : View) (placement : Placement) (here : Place) :
    (t : TableFactor) → (traceFactor v placement here t).Fresh here
  | .base name arguments alias? hints => by
    rw [traceFactor]
    exact .parts ((fresh_tracePieces v (0 :: here) arguments).bind ((fresh_tracePieces v (1 ::
      here) hints).bind ((fresh_predicated v (2 :: here) name alias?).last fun ps =>
      (TableFactor.base name _ alias? _, ps))))
  | .derived lateral q alias? => by
    rw [traceFactor]
    exact .parts ((fresh_traceQuery v (0 :: here) q).last _)
  | .nested inner alias? => by
    rw [traceFactor]
    exact .parts ((fresh_traceTable v placement (0 :: here) inner).last fun t =>
      (TableFactor.nested t.1 alias?, t.2))
  | .other pieces alias? tail => by
    rw [traceFactor]
    exact .parts ((fresh_tracePieces v (0 :: here) pieces).bind ((fresh_tracePieces v (1 :: here)
      tail).last fun ps => (TableFactor.other _ alias? ps, [])))

lemma fresh_traceJoins (v : View) (placement : Placement) (here : Place) :
    (js : List Join) → (traceJoins v placement here js).Fresh here
  | [] => Traced.fresh_pure _
  | { isGlobal, op, relation, matching, constraint } :: js => by
    rw [traceJoins]
    have hrelation := fresh_traceFactor v placement (0 :: here) relation
    have hmatching := fresh_traceOption v (1 :: here) matching
    have hconstraint := fresh_traceConstraint v (2 :: here) constraint
    have hjoins := fresh_traceJoins v placement (3 :: here) js
    refine .parts (hrelation.bind (hmatching.bind (hconstraint.bind ?_)))
    exact hjoins.last fun js => (Join.mk isGlobal op _ _ _ :: js.1, _ ++ js.2)

lemma fresh_traceTable (v : View) (placement : Placement) (here : Place) :
    (t : TableWithJoins) → (traceTable v placement here t).Fresh here
  | { relation, joins } => by
    rw [traceTable]
    exact .parts ((fresh_traceFactor v placement (0 :: here) relation).bind ((fresh_traceJoins v
      placement (1 :: here) joins).last fun js => (TableWithJoins.mk _ js.1, _ ++ js.2)))

lemma fresh_traceTables (v : View) (placement : Placement) (here : Place) :
    (ts : List TableWithJoins) → (traceTables v placement here ts).Fresh here
  | [] => Traced.fresh_pure _
  | t :: ts => by
    rw [traceTables]
    exact .parts ((fresh_traceTable v placement (0 :: here) t).bind ((fresh_traceTables v
      placement (1 :: here) ts).last fun ts => (_ :: ts.1, _ ++ ts.2)))

lemma fresh_traceCtes (v : View) (here : Place) :
    (cs : List Cte) → (traceCtes v here cs).Fresh here
  | [] => Traced.fresh_pure _
  | { given, query, source?, materialized } :: cs => by
    rw [traceCtes]
    exact .parts ((fresh_traceQuery v (0 :: here) query).bind ((fresh_traceCtes (v.withHidden
      given.name) (1 :: here) cs).last fun r => (Cte.mk given _ source? materialized :: r.1,
      r.2)))

lemma fresh_traceKeys (v : View) (here : Place) :
    (ks : List OrderKey) → (traceKeys v here ks).Fresh here
  | [] => Traced.fresh_pure _
  | { key, direction, fill } :: ks => by
    rw [traceKeys]
    exact .parts ((fresh_traceExpr v (0 :: here) key).bind ((fresh_tracePieces v (1 :: here)
      fill).bind ((fresh_traceKeys v (2 :: here) ks).last _)))

lemma fresh_traceQuery (v : View) (here : Place) :
    (q : Query) → (traceQuery v here q).Fresh here
  | { recursive, ctes, body, orderBy, interpolate, limit, tail } => by
    rw [traceQuery]
    exact Traced.fresh_hand ((fresh_traceCtes v (0 :: here) ctes).bind ((fresh_traceBody _ (1 :: here)
      body).bind ((fresh_traceKeys _ (2 :: here) orderBy).bind ((fresh_tracePieces _ (3 :: here)
      interpolate).bind ((fresh_traceOption _ (4 :: here) limit).last _)))))

lemma fresh_traceBody (v : View) (here : Place) :
    (b : Body) → (traceBody v here b).Fresh here
  | .select s => by
    rw [traceBody]
    exact .parts ((fresh_traceSelect v (0 :: here) s).last _)
  | .setOp l op quantifier r => by
    rw [traceBody]
    exact .parts ((fresh_traceBody v (0 :: here) l).bind ((fresh_traceBody v (1 :: here) r).last
      _))
  | .query q => by
    rw [traceBody]
    exact .parts ((fresh_traceQuery v (0 :: here) q).last _)
  | .rows _ => Traced.fresh_pure _
  | .table _ => Traced.fresh_pure _
  | .change _ => Traced.fresh_pure _

lemma fresh_traceItems (v : View) (here : Place) :
    (is : List SelectItem) → (traceItems v here is).Fresh here
  | [] => Traced.fresh_pure _
  | .expr e alias? :: is => by
    rw [traceItems]
    exact .parts ((fresh_traceExpr v (0 :: here) e).bind ((fresh_traceItems v (1 :: here)
      is).last _))
  | .wildcard qualifier options :: is => by
    rw [traceItems]
    exact .parts ((fresh_tracePieces v (0 :: here) options).bind ((fresh_traceItems v (1 :: here)
      is).last _))

lemma fresh_traceDistinct (v : View) (here : Place) :
    (d : Distinct) → (traceDistinct v here d).Fresh here
  | .none => Traced.fresh_pure _
  | .rows => Traced.fresh_pure _
  | .on keys => by
    rw [traceDistinct]
    exact .parts ((fresh_traceExprs v (0 :: here) keys).last _)

lemma fresh_traceSelect (v : View) (here : Place) :
    (s : Select) → (traceSelect v here s).Fresh here
  | { top, topFirst, distinct, items, into, tables, views, condition, groupAll, groupBy,
      groupModifiers, sorting, having, tail } => by
    rw [traceSelect]
    exact .parts ((fresh_tracePieces v (0 :: here) top).bind
      ((fresh_traceDistinct v (1 :: here) distinct).bind
      ((fresh_traceItems v (2 :: here) items).bind ((fresh_tracePieces v (3 :: here) views).bind
      ((fresh_traceOption v (4 :: here) condition).bind
      ((fresh_traceExprs v (5 :: here) groupBy).bind
      ((fresh_tracePieces v (6 :: here) sorting).bind
      ((fresh_traceOption v (7 :: here) having).bind
      ((fresh_tracePieces v (8 :: here) tail).bind
      ((fresh_traceTables v .joinCondition (9 :: here) tables).last fun ts =>
        Select.mk _ topFirst _ _ into ts.1 _ (extended _ ts.2) groupAll _ groupModifiers _ _ _))))))))))

end

lemma fresh_traceTableOption (v : View) (placement : Placement) (here : Place)
    (t? : Option TableWithJoins) : (traceTableOption v placement here t?).Fresh here := by
  cases t? with
  | none => exact Traced.fresh_pure _
  | some t =>
    rw [traceTableOption]
    exact .parts ((fresh_traceTable v placement (0 :: here) t).last fun t => (some t.1, t.2))

lemma fresh_traceUpdate (v : View) (here : Place) (u : Update) :
    (traceUpdate v here u).Fresh here := by
  rw [traceUpdate]
  exact .parts ((fresh_tracePieces v (0 :: here) u.assignments).bind
    ((fresh_traceOption v (1 :: here) u.condition).bind
    ((fresh_traceTable v .statement (2 :: here) u.target).bind
    ((fresh_traceTableOption v .statement (3 :: here) u.source?).last fun t =>
      Update.mk _ _ t.1 (extended _ (_ ++ t.2)) u.returning))))

lemma fresh_traceDelete (v : View) (here : Place) (d : Delete) :
    (traceDelete v here d).Fresh here := by
  rw [traceDelete]
  exact .parts ((fresh_traceOption v (0 :: here) d.condition).bind
    ((fresh_traceTables v .statement (1 :: here) d.targets).bind
    ((fresh_traceTables v .statement (2 :: here) d.sources).last fun ts =>
      Delete.mk d.named d.fromKeyword _ ts.1 (extended _ (_ ++ ts.2)) d.tail)))

lemma fresh_traceStatement (v : View) (here : Place) (s : Statement) :
    (traceStatement v here s).Fresh here := by
  cases s with
  | query q => exact .parts ((fresh_traceQuery v (0 :: here) q).last _)
  | update u => exact .parts ((fresh_traceUpdate v (0 :: here) u).last _)
  | delete d => exact .parts ((fresh_traceDelete v (0 :: here) d).last _)
  | other pieces => exact Traced.fresh_pure _

lemma fresh_traceStatements (v : View) (here : Place) (ss : List Statement) :
    (traceStatements v here ss).Fresh here := by
  induction ss generalizing here with
  | nil => exact Traced.fresh_pure _
  | cons s ss ih =>
    rw [traceStatements]
    exact .parts ((fresh_traceStatement v (0 :: here) s).bind ((ih (1 :: here)).last _))

end Places

lemma isScoped_unchanged (sql : String) (why : Unchanged) :
    let o := Outcome.unchanged sql why
    (o.isScoped = true ↔ 0 < o.predicatesAdded) ∧ (o.isScoped = false → o.sql = sql) :=
  ⟨⟨fun h => absurd h Bool.false_ne_true, fun h => absurd h (Nat.lt_irrefl 0)⟩, fun _ => rfl⟩

/-- With what was read from a text, an enabled policy reports what scoping adds to it; the text
itself comes back unless that is something. -/
lemma outcome_parsed {p : Policy} (tenant : TenantId) {sql : String} {ss : List Statement}
    (parsed : parseStatements p.dialect sql = .ok ss) :
    ∃ o, p.outcome (some tenant) sql = .ok o ∧
      o.predicatesAdded = (if p.enabled then (p.scopedStatements tenant ss).added else 0) ∧
      (o.isScoped = true ↔ 0 < o.predicatesAdded) ∧ (o.isScoped = false → o.sql = sql) := by
  unfold Policy.outcome
  cases p.enabled with
  | false => exact ⟨.unchanged sql .disabled, rfl, rfl, isScoped_unchanged sql _⟩
  | true =>
    rw [parsed]
    dsimp only
    cases p.scopedStatements tenant ss with
    | mk statements added =>
      cases added with
      | zero => exact ⟨.unchanged sql .nothingToScope, rfl, rfl, isScoped_unchanged sql _⟩
      | succ n =>
        exact ⟨⟨spellStatements statements, n + 1, none⟩, rfl, rfl,
          ⟨fun _ => Nat.succ_pos n, fun _ => rfl⟩,
          fun h => absurd h.symm Bool.false_ne_true⟩

/-- No query is handed over twice and no table gets two predicates. As many predicates as tables get
one stand in the conditions, and their number is reported; without any, the text is left as it
is. -/
theorem scopedStatements_once (p : Policy) (tenant : TenantId) (sql : String) (ss : List Statement)
    (parsed : parseStatements p.dialect sql = .ok ss) :
    let traced := traceStatements ⟨p, tenant, []⟩ [] ss
    traced.counted = p.scopedStatements tenant ss ∧
      traced.queries.Nodup ∧ traced.tables.Nodup ∧
      (∃ edits, additionCount edits = traced.tables.length ∧
        eraseStatements p.tenantColumn tenant traced.value edits = some (ss, [])) ∧
      ∃ o, p.outcome (some tenant) sql = .ok o ∧
        o.predicatesAdded = (if p.enabled then traced.tables.length else 0) ∧
        (o.isScoped = true ↔ 0 < o.predicatesAdded) ∧ (o.isScoped = false → o.sql = sql) := by
  intro traced
  have hcounted : traced.counted = p.scopedStatements tenant ss := counted_traceStatements _ _ ss
  have hfresh := fresh_traceStatements ⟨p, tenant, []⟩ [] ss
  have hadded : (p.scopedStatements tenant ss).added = traced.tables.length :=
    congrArg Counted.added hcounted.symm
  have hvalue : (p.scopedStatements tenant ss).value = traced.value :=
    congrArg Counted.value hcounted.symm
  obtain ⟨edits, hcount, herased⟩ := restores_scopeStatements ⟨p, tenant, []⟩ ss
  have hall := herased []
  rw [List.append_nil] at hall
  obtain ⟨o, ho, hpredicates, hscoped, hunchanged⟩ := outcome_parsed tenant parsed
  rw [hadded] at hpredicates
  refine ⟨hcounted, hfresh.queries.1, hfresh.tables.1, ⟨edits, hcount.trans hadded, ?_⟩,
    o, ho, hpredicates, hscoped, hunchanged⟩
  rw [← hvalue]
  exact hall

theorem scopedStatements_once_nested :
    let sql := "SELECT * FROM orders JOIN (SELECT * FROM items) AS i ON orders.id = i.order_id"
    ∃ ss, parseStatements .mysql sql = .ok ss ∧
      (traceStatements ⟨.usualEnabled, .one, []⟩ [] ss).queries.Nodup ∧
      (traceStatements ⟨.usualEnabled, .one, []⟩ [] ss).tables.Nodup ∧
      (Policy.usualEnabled.outcome (some .one) sql).toOption.map (·.predicatesAdded) = some 2 := by
  intro sql
  cases parsed : parseStatements .mysql sql with
  | error e =>
    have hparses : (parseStatements .mysql sql).isOk = true := by decide +kernel
    rw [parsed] at hparses
    exact absurd hparses Bool.false_ne_true
  | ok ss =>
    have honce := scopedStatements_once .usualEnabled .one sql ss parsed
    exact ⟨ss, rfl, honce.2.1, honce.2.2.1, by decide +kernel⟩

end RowFence.Scope
