import RowFence.Proofs.Meaning.Passing

/-! The predicates that scoping leaves to the condition of a statement. They are read off the layout
of its tables, which scoping keeps. -/

namespace RowFence.Meaning

open Sql Scope

def predicateAt (v : View) (place : Occurrence) : Expr :=
  tenantPredicate place.name place.alias? v.policy.tenantColumn v.tenant

lemma predicates_eq (v : View) (place : Occurrence) :
    v.predicates place.name place.alias? =
      (if v.exempts place.name then [] else [place]).map (predicateAt v) := by
  unfold View.predicates
  split <;> rfl

lemma isBase_factorLayout (x : TableFactor) : (factorLayout x).isBase = isBase x := by
  cases x <;> rfl

section Kept

variable (v : View) (placement : Placement)

lemma isEmpty_scopePieces (xs : List Piece) : (scopePieces v xs).value.isEmpty = xs.isEmpty := by
  cases xs <;> rfl

lemma hasOn_scopeConstraint (j : JoinConstraint) :
    JoinConstraint.hasOn (scopeConstraint v j).value = JoinConstraint.hasOn j := by
  cases j <;> rfl

lemma hasOn_placed (base : Bool) (j : JoinConstraint) (preds : List Expr) :
    JoinConstraint.hasOn (if base then placed placement j preds else (j, preds)).1 =
      JoinConstraint.hasOn j := by
  cases base with
  | false => rfl
  | true => cases placement <;> cases j <;> rfl

lemma pending_placed (base : Bool) (j : JoinConstraint) (preds : List Expr) :
    (if base then placed placement j preds else (j, preds)).2 =
      if takesTests placement (JoinConstraint.hasOn j) base then [] else preds := by
  cases base with
  | false => rfl
  | true => cases placement <;> cases j <;> rfl

mutual

lemma layout_scopeFactor :
    (x : TableFactor) → factorLayout (scopeFactor v placement x).value.1 = factorLayout x
  | .base name arguments alias? hints => by
    simp only [scopeFactor, Counted.value_bind, Counted.value_pure, factorLayout,
      isEmpty_scopePieces]
  | .derived .. => rfl
  | .nested inner alias? => congrArg (Layout.nested · alias?) (layout_scopeTable inner)
  | .other .. => rfl

lemma layout_scopeJoins (first : Layout) :
    (js : List Join) → joinsLayout first (scopeJoins v placement js).value.1 = joinsLayout first js
  | [] => rfl
  | { op, relation, constraint, .. } :: js => by
    simp only [scopeJoins, Counted.value_bind, Counted.value_pure, joinsLayout, hasOn_placed,
      hasOn_scopeConstraint, layout_scopeFactor relation]
    exact layout_scopeJoins _ js

lemma layout_scopeTable :
    (x : TableWithJoins) → tableLayout (scopeTable v placement x).value.1 = tableLayout x
  | { relation, joins } => by
    simp only [scopeTable, Counted.value_bind, Counted.value_pure, tableLayout,
      layout_scopeFactor relation]
    exact layout_scopeJoins _ joins

end

lemma layout_scopeTables (xs : List TableWithJoins) :
    tablesLayout (scopeTables v placement xs).value.1 = tablesLayout xs := by
  induction xs with
  | nil => rfl
  | cons x xs ih =>
    simp only [scopeTables, Counted.value_bind, Counted.value_pure, tablesLayout, layout_scopeTable,
      ih]

mutual

lemma pending_scopeFactor : (x : TableFactor) → (scopeFactor v placement x).value.2 =
      ((factorLayout x).pending v placement).map (predicateAt v)
  | .base name arguments alias? hints => by
    simp only [scopeFactor, counted, Counted.value_bind, Counted.value_pure, factorLayout,
      Layout.pending]
    exact predicates_eq v ⟨name, alias?⟩
  | .derived .. => rfl
  | .nested inner alias? => by
    simp only [scopeFactor, Counted.value_bind, Counted.value_pure, factorLayout, Layout.pending]
    exact pending_scopeTable inner
  | .other .. => rfl

lemma pending_scopeJoins (first : Layout) : (js : List Join) →
      (first.pending v placement).map (predicateAt v) ++ (scopeJoins v placement js).value.2 =
        ((joinsLayout first js).pending v placement).map (predicateAt v)
  | [] => List.append_nil _
  | { op, relation, constraint, .. } :: js => by
    have hright : (if takesTests placement (JoinConstraint.hasOn constraint) (isBase relation) then []
        else (scopeFactor v placement relation).value.2) =
        (if takesTests placement (JoinConstraint.hasOn constraint) (factorLayout relation).isBase
          then [] else (factorLayout relation).pending v placement).map (predicateAt v) := by
      rw [isBase_factorLayout, pending_scopeFactor relation]
      split <;> rfl
    simp only [scopeJoins, Counted.value_bind, Counted.value_pure, joinsLayout, pending_placed,
      hasOn_scopeConstraint]
    rw [← pending_scopeJoins _ js, Layout.pending, List.map_append, hright, List.append_assoc]

lemma pending_scopeTable : (x : TableWithJoins) → (scopeTable v placement x).value.2 =
      ((tableLayout x).pending v placement).map (predicateAt v)
  | { relation, joins } => by
    simp only [scopeTable, Counted.value_bind, Counted.value_pure, tableLayout,
      pending_scopeFactor relation]
    exact pending_scopeJoins _ joins

end

lemma pending_scopeTables (xs : List TableWithJoins) : (scopeTables v placement xs).value.2 =
    ((tablesLayout xs).pending v placement).map (predicateAt v) := by
  induction xs with
  | nil => rfl
  | cons x xs ih =>
    simp only [scopeTables, Counted.value_bind, Counted.value_pure, tablesLayout, Layout.pending,
      takesTests, Bool.and_false, Bool.false_eq_true, if_false, List.map_append, ih,
      pending_scopeTable]

end Kept

lemma exprTerm_predicatesAt {V : Type} (E : Engine V) (S : Fetch V) (c : Common V) (v : View)
    (places : List Occurrence) :
    (places.map (predicateAt v)).map (exprTerm E S c) = places.map (E.test v) := by
  rw [List.map_map]
  refine List.map_congr_left fun place _ => ?_
  rcases place with ⟨name, _ | a⟩ <;> rfl

end RowFence.Meaning
