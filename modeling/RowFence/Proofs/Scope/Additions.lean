import Mathlib.Algebra.Ring.Nat
import Mathlib.Data.List.Basic
import RowFence.Proofs.Scope.Erasure
import RowFence.Proofs.Scope.Reach
import RowFence.Scope.Outcome

/-! Erasing the additions to scoped statements restores the statements as they were, and there are
as many additions as scoping counts. -/

namespace RowFence.Scope

open Sql

def additionCount (edits : List (List Addition)) : Nat := (edits.map List.length).sum

lemma additionCount_append (first second : List (List Addition)) :
    additionCount (first ++ second) = additionCount first + additionCount second := by
  rw [additionCount, List.map_append, List.sum_append, additionCount, additionCount]

/-- Erasing `count` additions gives `a`. -/
def Restores {α : Type} (m : Eraser α) (a : α) (count : Nat) : Prop :=
  ∃ edits, additionCount edits = count ∧ ∀ rest, m (edits ++ rest) = some (a, rest)

namespace Restores

variable {α β : Type}

lemma pure (a : α) : Restores (Pure.pure a) a 0 := ⟨[], rfl, fun _ => rfl⟩

lemma of_pure {a b : α} {n : Nat} (h : Restores (Pure.pure a) b n) : a = b ∧ n = 0 := by
  obtain ⟨edits, rfl, h⟩ := h
  obtain ⟨rfl, hedits⟩ := Prod.mk.inj (Option.some.inj (h []))
  rw [List.append_nil] at hedits
  exact ⟨rfl, congrArg additionCount hedits⟩

lemma bind {m : Eraser α} {f : α → Eraser β} {a : α} {b : β} {n k : Nat} (hm : Restores m a n)
    (hf : Restores (f a) b k) : Restores (m >>= f) b (n + k) := by
  obtain ⟨first, rfl, hfirst⟩ := hm
  obtain ⟨second, rfl, hsecond⟩ := hf
  refine ⟨first ++ second, additionCount_append first second, fun rest => ?_⟩
  have hrun : (m >>= f) (first ++ (second ++ rest)) =
      (m (first ++ (second ++ rest))).bind fun r => f r.1 r.2 := rfl
  rw [List.append_assoc, hrun, hfirst]
  exact hsecond rest

lemma map {m : Eraser α} {a : α} {n : Nat} (hm : Restores m a n) (f : α → β) :
    Restores (m >>= fun x => Pure.pure (f x)) (f a) n :=
  hm.bind (f := fun x => Pure.pure (f x)) (pure (f a))

lemma of_eq {m : Eraser α} {a : α} {n k : Nat} (hn : n = k) (h : Restores m a n) :
    Restores m a k :=
  hn ▸ h

lemma of_map {m : Eraser α} {f : α → β} {b : β} {n : Nat} (hf : Function.Injective f)
    (h : Restores (m >>= fun x => Pure.pure (f x)) b n) : ∃ a, b = f a ∧ Restores m a n := by
  obtain ⟨edits, hn, h⟩ := h
  have hrun (rest : List (List Addition)) : ∃ a, m (edits ++ rest) = some (a, rest) ∧ f a = b := by
    obtain ⟨⟨a, rest'⟩, ha, hb⟩ := Option.bind_eq_some_iff.mp (h rest)
    obtain ⟨rfl, rfl⟩ := Prod.mk.inj (Option.some.inj hb)
    exact ⟨a, ha, rfl⟩
  obtain ⟨a, -, rfl⟩ := hrun []
  refine ⟨a, rfl, edits, hn, fun rest => ?_⟩
  obtain ⟨a', ha', hfa⟩ := hrun rest
  rw [ha', hf hfa]

end Restores

section

variable {column : String} {tenant : TenantId}

/-- What is left to erase of a table that comes with predicates for a condition. Scoping counted
these already. -/
def Owes {α : Type} (column : String) (tenant : TenantId) (m : α → Eraser α)
    (result : Counted (α × List Expr)) (a : α) : Prop :=
  ∃ n, result.added = n + result.value.2.length ∧ Restores (m result.value.1) a n ∧
    ∀ p ∈ result.value.2, isTenantPredicate column tenant p = true

lemma isTenantPredicate_of_mem_predicates {v : View} {name : Name} {alias? : Option TableAlias}
    {p : Expr} (h : p ∈ v.predicates name alias?) :
    isTenantPredicate v.policy.tenantColumn v.tenant p = true := by
  unfold View.predicates at h
  split at h
  · exact absurd h List.not_mem_nil
  · obtain rfl := List.mem_singleton.mp h
    simp [tenantPredicate, isTenantPredicate]

lemma restores_tenantPredicate {p : Expr} (h : isTenantPredicate column tenant p = true) :
    Restores (eraseExpr column tenant p) p 0 := by
  unfold isTenantPredicate at h
  split at h
  · simp only [eraseExpr]
    exact (Restores.pure _).bind ((Restores.pure _).bind (Restores.pure _))
  · exact nomatch h

lemma restores_undo {additions : List Addition} {extended condition : Option Expr}
    (h : withoutAdditions column tenant additions extended = some condition) :
    Restores (undo column tenant extended) condition additions.length := by
  refine ⟨[additions], Nat.add_zero _, fun rest => ?_⟩
  have hrun : undo column tenant extended ([additions] ++ rest) =
      (withoutAdditions column tenant additions extended).bind fun c => some (c, rest) := rfl
  rw [hrun, h, Option.bind_some]

/-- A condition with `added` additions of its own: once the additions in it are erased, those come
off. -/
def Extends (column : String) (tenant : TenantId) (extended condition : Option Expr)
    (within added : Nat) : Prop :=
  ∃ restored additions, additions.length = added ∧
    Restores (eraseOption column tenant extended) restored within ∧
    withoutAdditions column tenant additions restored = some condition

namespace Extends

variable {condition : Option Expr} {e e' p : Expr} {n k : Nat}

lemma refl {e? : Option Expr} (h : Restores (eraseOption column tenant e?) condition n) :
    Extends column tenant e? condition n 0 :=
  ⟨condition, [], rfl, h, rfl⟩

lemma alone (h : Extends column tenant none condition n k)
    (hp : isTenantPredicate column tenant p = true) :
    Extends column tenant (some p) condition n (k + 1) := by
  obtain ⟨restored, additions, rfl, hrestored, hadditions⟩ := h
  obtain ⟨rfl, rfl⟩ := hrestored.of_pure
  refine ⟨some p, .alone :: additions, rfl, (restores_tenantPredicate hp).map some, ?_⟩
  rw [withoutAdditions, withoutAddition, if_pos hp]
  exact hadditions

lemma exists_grouped (hp : isTenantPredicate column tenant p = true)
    (he : Restores (eraseExpr column tenant e) e' n) :
    ∃ g addition, Restores (eraseExpr column tenant (grouped e)) g n ∧
      withoutAddition column tenant addition (some (.binary g .and p)) = some (some e') := by
  have hconjoined : withoutAddition column tenant .conjoined (some (.binary e' .and p)) =
      some (some e') := by rw [withoutAddition, if_pos hp]
  have hgrouped : withoutAddition column tenant .grouped (some (.binary (.nested e') .and p)) =
      some (some e') := by rw [withoutAddition, if_pos hp]
  unfold grouped
  split
  · exact ⟨e', .conjoined, he, hconjoined⟩
  · split
    · refine ⟨.nested e', .grouped, ?_, hgrouped⟩
      rw [eraseExpr]
      exact he.map Expr.nested
    · exact ⟨e', .conjoined, he, hconjoined⟩

lemma conjoin (h : Extends column tenant (some e) condition n k)
    (hp : isTenantPredicate column tenant p = true) :
    Extends column tenant (some (conjoin e p)) condition n (k + 1) := by
  obtain ⟨restored, additions, rfl, hrestored, hadditions⟩ := h
  obtain ⟨e', rfl, he'⟩ := hrestored.of_map fun _ _ h => Option.some.inj h
  obtain ⟨g, addition, hg, hadd⟩ := exists_grouped hp he'
  refine ⟨some (.binary g .and p), addition :: additions, rfl, ?_, ?_⟩
  · have hbinary := (restores_tenantPredicate hp).map (Expr.binary g .and)
    rw [eraseOption, Scope.conjoin, eraseExpr]
    exact Restores.map (hg.bind (k := 0) hbinary) some
  · rw [withoutAdditions, hadd]
    exact hadditions

lemma extended {preds : List Expr} {e? : Option Expr}
    (hpreds : ∀ p ∈ preds, isTenantPredicate column tenant p = true)
    (h : Extends column tenant e? condition n k) :
    Extends column tenant (extended e? preds) condition n (k + preds.length) := by
  induction preds generalizing e? k with
  | nil =>
    cases e? with
    | none => exact h
    | some e => exact h
  | cons p preds ih =>
    obtain ⟨hp, hpreds⟩ := List.forall_mem_cons.mp hpreds
    rw [List.length_cons, Nat.add_comm preds.length 1, ← Nat.add_assoc]
    cases e? with
    | none => exact ih hpreds (h.alone hp)
    | some e => exact ih hpreds (h.conjoin hp)

lemma restores_condition {e? : Option Expr} (h : Extends column tenant e? condition n k) :
    Restores (eraseCondition column tenant e?) condition (n + k) := by
  obtain ⟨restored, additions, rfl, hrestored, hadditions⟩ := h
  cases e? with
  | none =>
    obtain ⟨rfl, rfl⟩ := hrestored.of_pure
    rw [Nat.zero_add]
    exact restores_undo hadditions
  | some e =>
    obtain ⟨e', rfl, he'⟩ := hrestored.of_map fun _ _ h => Option.some.inj h
    exact he'.bind (restores_undo hadditions)

lemma restores_on {e₀ : Expr} (h : Extends column tenant (some e) (some e₀) n k) :
    Restores (eraseConstraint column tenant (.on e)) (.on e₀) (n + k) := by
  obtain ⟨restored, additions, rfl, hrestored, hadditions⟩ := h
  obtain ⟨e', rfl, he'⟩ := hrestored.of_map fun _ _ h => Option.some.inj h
  rw [eraseConstraint]
  exact he'.bind ((restores_undo hadditions).bind (k := 0) (Restores.pure (JoinConstraint.on e₀)))

end Extends

end

lemma extended_some (e : Expr) (preds : List Expr) :
    extended (some e) preds = some (preds.foldl conjoin e) := by
  induction preds generalizing e with
  | nil => rfl
  | cons p preds ih => rw [extended, ih, List.foldl_cons]

/-- A join constraint takes predicates of its table, and may leave some. -/
def Takes (column : String) (tenant : TenantId) (result j : JoinConstraint) (count : Nat) : Prop :=
  ∀ (placement : Placement) (preds : List Expr),
    (∀ p ∈ preds, isTenantPredicate column tenant p = true) →
      ∃ n, count + preds.length = n + (placed placement result preds).2.length ∧
        Restores (eraseConstraint column tenant (placed placement result preds).1) j n ∧
        ∀ p ∈ (placed placement result preds).2, isTenantPredicate column tenant p = true

section

variable {column : String} {tenant : TenantId}

lemma takes_on {e' e : Expr} {n : Nat} (he : Restores (eraseExpr column tenant e') e n) :
    Takes column tenant (.on e') (.on e) n := by
  have hslot : Extends column tenant (some e') (some e) n 0 := .refl (he.map some)
  intro placement preds hpreds
  cases placement with
  | joinCondition =>
    have hon := hslot.extended hpreds
    rw [extended_some, Nat.zero_add] at hon
    exact ⟨_, rfl, hon.restores_on, List.forall_mem_nil _⟩
  | statement => exact ⟨n, rfl, hslot.restores_on, hpreds⟩

lemma takes_of_ne_on {result j : JoinConstraint} {n : Nat} (hon : ∀ e, result ≠ .on e)
    (hj : Restores (eraseConstraint column tenant result) j n) :
    Takes column tenant result j n := by
  intro placement preds hpreds
  unfold placed
  split
  · exact absurd rfl (hon _)
  · exact ⟨n, rfl, hj, hpreds⟩

lemma Takes.restores {result j : JoinConstraint} {n : Nat} (h : Takes column tenant result j n) :
    Restores (eraseConstraint column tenant result) j n := by
  obtain ⟨m, hm, hj, -⟩ := h .statement [] (List.forall_mem_nil _)
  obtain rfl : n = m := hm
  exact hj

end

lemma view_scopeCtes (v : View) (ctes : List Cte) :
    (scopeCtes v ctes).value.2.policy = v.policy ∧ (scopeCtes v ctes).value.2.tenant = v.tenant := by
  induction ctes generalizing v with
  | nil => exact ⟨rfl, rfl⟩
  | cons cte ctes ih =>
    obtain ⟨given, query, source?, materialized⟩ := cte
    simp only [scopeCtes, Counted.value_bind, Counted.value_pure]
    exact ih (v.withHidden given.name)

mutual

lemma restores_scopeExpr (v : View) : (e : Expr) →
    Restores (eraseExpr v.policy.tenantColumn v.tenant (scopeExpr v e).value) e (scopeExpr v e).added
  | .name _ => by
    rw [scopeExpr, Counted.value_pure, eraseExpr]
    exact Restores.pure _
  | .value _ => by
    rw [scopeExpr, Counted.value_pure, eraseExpr]
    exact Restores.pure _
  | .binary l op r => by
    rw [scopeExpr]
    exact (restores_scopeExpr v l).bind ((restores_scopeExpr v r).map _)
  | .nested e => by
    rw [scopeExpr]
    exact (restores_scopeExpr v e).map _
  | .call f rest => by
    rw [scopeExpr]
    exact (restores_scopePieces v rest).map _
  | .form pieces => by
    rw [scopeExpr]
    exact (restores_scopePieces v pieces).map _

lemma restores_scopeExprs (v : View) : (es : List Expr) →
    Restores (eraseExprs v.policy.tenantColumn v.tenant (scopeExprs v es).value) es
      (scopeExprs v es).added
  | [] => by
    rw [scopeExprs]
    exact Restores.pure _
  | e :: es => by
    rw [scopeExprs]
    exact (restores_scopeExpr v e).bind ((restores_scopeExprs v es).map _)

lemma restores_scopeOption (v : View) : (e? : Option Expr) →
    Restores (eraseOption v.policy.tenantColumn v.tenant (scopeOption v e?).value) e?
      (scopeOption v e?).added
  | none => by
    rw [scopeOption]
    exact Restores.pure _
  | some e => by
    rw [scopeOption]
    exact (restores_scopeExpr v e).map _

lemma restores_scopePieces (v : View) : (ps : List Piece) →
    Restores (erasePieces v.policy.tenantColumn v.tenant (scopePieces v ps).value) ps
      (scopePieces v ps).added
  | [] => by
    rw [scopePieces]
    exact Restores.pure _
  | .text s :: ps => by
    rw [scopePieces, scopePiece]
    exact (Restores.pure _).bind ((restores_scopePieces v ps).map _)
  | .expr e :: ps => by
    rw [scopePieces, scopePiece]
    exact (restores_scopeExpr v e).bind ((restores_scopePieces v ps).map _)
  | .query q :: ps => by
    rw [scopePieces, scopePiece]
    exact (restores_scopeQuery v q).bind ((restores_scopePieces v ps).map _)
  | .table t :: ps => by
    rw [scopePieces, scopePiece]
    exact (restores_scopeInner v t).bind ((restores_scopePieces v ps).map _)

lemma restores_scopeInner (v : View) : (t : TableFactor) →
    Restores (eraseFactor v.policy.tenantColumn v.tenant false (scopeInner v t).value) t
      (scopeInner v t).added
  | .base name arguments alias? hints => by
    rw [scopeInner]
    exact (restores_scopePieces v arguments).bind ((restores_scopePieces v hints).map _)
  | .derived lateral q alias? => by
    rw [scopeInner]
    exact Restores.pure _
  | .nested inner alias? => by
    rw [scopeInner]
    exact (restores_scopeInnerTable v inner).map _
  | .other pieces alias? tail => by
    rw [scopeInner]
    exact (restores_scopePieces v pieces).bind ((restores_scopePieces v tail).map _)

lemma restores_scopeInnerJoins (v : View) : (js : List Join) →
    Restores (eraseJoins v.policy.tenantColumn v.tenant false (scopeInnerJoins v js).value) js
      (scopeInnerJoins v js).added
  | [] => by
    rw [scopeInnerJoins]
    exact Restores.pure _
  | { isGlobal, op, relation, matching, constraint } :: js => by
    rw [scopeInnerJoins]
    exact (restores_scopeInner v relation).bind ((restores_scopeOption v matching).bind
      ((takes_scopeConstraint v constraint).restores.bind ((restores_scopeInnerJoins v js).map _)))

lemma restores_scopeInnerTable (v : View) : (t : TableWithJoins) →
    Restores (eraseTable v.policy.tenantColumn v.tenant false (scopeInnerTable v t).value) t
      (scopeInnerTable v t).added
  | { relation, joins } => by
    rw [scopeInnerTable]
    exact (restores_scopeInner v relation).bind ((restores_scopeInnerJoins v joins).map _)

lemma takes_scopeConstraint (v : View) : (j : JoinConstraint) →
    Takes v.policy.tenantColumn v.tenant (scopeConstraint v j).value j (scopeConstraint v j).added
  | .on e => by
    rw [scopeConstraint]
    exact takes_on (restores_scopeExpr v e)
  | .shared _ => by
    rw [scopeConstraint]
    exact takes_of_ne_on (fun _ h => nomatch h) (Restores.pure _)
  | .natural => by
    rw [scopeConstraint]
    exact takes_of_ne_on (fun _ h => nomatch h) (Restores.pure _)
  | .none => by
    rw [scopeConstraint]
    exact takes_of_ne_on (fun _ h => nomatch h) (Restores.pure _)

lemma owes_scopeFactor (v : View) (placement : Placement) : (t : TableFactor) →
    Owes v.policy.tenantColumn v.tenant (eraseFactor v.policy.tenantColumn v.tenant true)
      (scopeFactor v placement t) t
  | .base name arguments alias? hints => by
    simp only [Owes, scopeFactor, counted, Counted.added_bind, Counted.added_pure,
      Counted.value_bind, Counted.value_pure]
    refine ⟨(scopePieces v arguments).added + (scopePieces v hints).added, by omega, ?_,
      fun p hp => isTenantPredicate_of_mem_predicates hp⟩
    rw [eraseFactor]
    exact (restores_scopePieces v arguments).bind ((restores_scopePieces v hints).map _)
  | .derived lateral q alias? => by
    simp only [Owes, scopeFactor, Counted.added_bind, Counted.added_pure, Counted.value_bind,
      Counted.value_pure]
    refine ⟨(scopeQuery v q).added, rfl, ?_, List.forall_mem_nil _⟩
    rw [eraseFactor, if_pos rfl]
    exact (restores_scopeQuery v q).map _
  | .nested inner alias? => by
    obtain ⟨n, hn, hinner, hpreds⟩ := owes_scopeTable v placement inner
    simp only [Owes, scopeFactor, Counted.added_bind, Counted.added_pure, Counted.value_bind,
      Counted.value_pure]
    refine ⟨n, hn, ?_, hpreds⟩
    rw [eraseFactor]
    exact hinner.map _
  | .other pieces alias? tail => by
    simp only [Owes, scopeFactor, Counted.added_bind, Counted.added_pure, Counted.value_bind,
      Counted.value_pure]
    refine ⟨(scopePieces v pieces).added + (scopePieces v tail).added, rfl, ?_,
      List.forall_mem_nil _⟩
    rw [eraseFactor]
    exact (restores_scopePieces v pieces).bind ((restores_scopePieces v tail).map _)

lemma owes_scopeJoins (v : View) (placement : Placement) : (js : List Join) →
    Owes v.policy.tenantColumn v.tenant (eraseJoins v.policy.tenantColumn v.tenant true)
      (scopeJoins v placement js) js
  | [] => ⟨0, rfl, Restores.pure _, List.forall_mem_nil _⟩
  | { isGlobal, op, relation, matching, constraint } :: js => by
    obtain ⟨n, hn, hrelation, hpreds⟩ := owes_scopeFactor v placement relation
    obtain ⟨m, hm, hplaced, hleft⟩ := takes_scopeConstraint v constraint placement _ hpreds
    obtain ⟨k, hk, hjoins, hothers⟩ := owes_scopeJoins v placement js
    have hmatching := restores_scopeOption v matching
    simp only [Owes, scopeJoins, Counted.added_bind, Counted.added_pure, Counted.value_bind,
      Counted.value_pure]
    split
    · refine ⟨n + ((scopeOption v matching).added + (m + k)), ?_, ?_,
        List.forall_mem_append.mpr ⟨hleft, hothers⟩⟩
      · rw [List.length_append]
        omega
      · rw [eraseJoins]
        exact hrelation.bind (hmatching.bind (hplaced.bind (hjoins.map _)))
    · refine ⟨n + ((scopeOption v matching).added + ((scopeConstraint v constraint).added + k)),
        ?_, ?_, List.forall_mem_append.mpr ⟨hpreds, hothers⟩⟩
      · dsimp only
        rw [List.length_append]
        omega
      · rw [eraseJoins]
        exact hrelation.bind (hmatching.bind
          ((takes_scopeConstraint v constraint).restores.bind (hjoins.map _)))

lemma owes_scopeTable (v : View) (placement : Placement) : (t : TableWithJoins) →
    Owes v.policy.tenantColumn v.tenant (eraseTable v.policy.tenantColumn v.tenant true)
      (scopeTable v placement t) t
  | { relation, joins } => by
    obtain ⟨n, hn, hrelation, hpreds⟩ := owes_scopeFactor v placement relation
    obtain ⟨k, hk, hjoins, hothers⟩ := owes_scopeJoins v placement joins
    simp only [Owes, scopeTable, Counted.added_bind, Counted.added_pure, Counted.value_bind,
      Counted.value_pure]
    refine ⟨n + k, ?_, ?_, List.forall_mem_append.mpr ⟨hpreds, hothers⟩⟩
    · rw [List.length_append]
      omega
    · rw [eraseTable]
      exact hrelation.bind (hjoins.map _)

lemma owes_scopeTables (v : View) (placement : Placement) : (ts : List TableWithJoins) →
    Owes v.policy.tenantColumn v.tenant (eraseTables v.policy.tenantColumn v.tenant)
      (scopeTables v placement ts) ts
  | [] => ⟨0, rfl, Restores.pure _, List.forall_mem_nil _⟩
  | t :: ts => by
    obtain ⟨n, hn, htable, hpreds⟩ := owes_scopeTable v placement t
    obtain ⟨k, hk, htables, hothers⟩ := owes_scopeTables v placement ts
    simp only [Owes, scopeTables, Counted.added_bind, Counted.added_pure, Counted.value_bind,
      Counted.value_pure]
    refine ⟨n + k, ?_, ?_, List.forall_mem_append.mpr ⟨hpreds, hothers⟩⟩
    · rw [List.length_append]
      omega
    · rw [eraseTables]
      exact htable.bind (htables.map _)

lemma restores_scopeCtes (v : View) : (cs : List Cte) →
    Restores (eraseCtes v.policy.tenantColumn v.tenant (scopeCtes v cs).value.1) cs
      (scopeCtes v cs).added
  | [] => by
    rw [scopeCtes]
    exact Restores.pure _
  | { given, query, source?, materialized } :: cs => by
    rw [scopeCtes]
    exact (restores_scopeQuery v query).bind
      ((restores_scopeCtes (v.withHidden given.name) cs).map _)

lemma restores_scopeKeys (v : View) : (ks : List OrderKey) →
    Restores (eraseKeys v.policy.tenantColumn v.tenant (scopeKeys v ks).value) ks
      (scopeKeys v ks).added
  | [] => by
    rw [scopeKeys]
    exact Restores.pure _
  | { key, direction, fill } :: ks => by
    rw [scopeKeys]
    exact (restores_scopeExpr v key).bind
      ((restores_scopePieces v fill).bind ((restores_scopeKeys v ks).map _))

lemma restores_scopeQuery (v : View) : (q : Query) →
    Restores (eraseQuery v.policy.tenantColumn v.tenant (scopeQuery v q).value) q
      (scopeQuery v q).added
  | { recursive, ctes, body, orderBy, interpolate, limit, tail } => by
    obtain ⟨hpolicy, htenant⟩ := view_scopeCtes v ctes
    have hbody := restores_scopeBody (scopeCtes v ctes).value.2 body
    have horderBy := restores_scopeKeys (scopeCtes v ctes).value.2 orderBy
    have hinterpolate := restores_scopePieces (scopeCtes v ctes).value.2 interpolate
    have hlimit := restores_scopeOption (scopeCtes v ctes).value.2 limit
    rw [hpolicy, htenant] at hbody horderBy hinterpolate hlimit
    rw [scopeQuery]
    exact (restores_scopeCtes v ctes).bind
      (hbody.bind (horderBy.bind (hinterpolate.bind (hlimit.map _))))

lemma restores_scopeBody (v : View) : (b : Body) →
    Restores (eraseBody v.policy.tenantColumn v.tenant (scopeBody v b).value) b (scopeBody v b).added
  | .select s => by
    rw [scopeBody]
    exact (restores_scopeSelect v s).map _
  | .setOp l op quantifier r => by
    rw [scopeBody]
    exact (restores_scopeBody v l).bind ((restores_scopeBody v r).map _)
  | .query q => by
    rw [scopeBody]
    exact (restores_scopeQuery v q).map _
  | .rows _ => by
    rw [scopeBody]
    exact Restores.pure _
  | .table _ => by
    rw [scopeBody]
    exact Restores.pure _
  | .change _ => by
    rw [scopeBody]
    exact Restores.pure _

lemma restores_scopeItems (v : View) : (is : List SelectItem) →
    Restores (eraseItems v.policy.tenantColumn v.tenant (scopeItems v is).value) is
      (scopeItems v is).added
  | [] => by
    rw [scopeItems]
    exact Restores.pure _
  | .expr e alias? :: is => by
    rw [scopeItems]
    exact (restores_scopeExpr v e).bind ((restores_scopeItems v is).map _)
  | .wildcard qualifier options :: is => by
    rw [scopeItems]
    exact (restores_scopePieces v options).bind ((restores_scopeItems v is).map _)

lemma restores_scopeDistinct (v : View) : (d : Distinct) →
    Restores (eraseDistinct v.policy.tenantColumn v.tenant (scopeDistinct v d).value) d
      (scopeDistinct v d).added
  | .none => by
    rw [scopeDistinct]
    exact Restores.pure _
  | .rows => by
    rw [scopeDistinct]
    exact Restores.pure _
  | .on keys => by
    rw [scopeDistinct]
    exact (restores_scopeExprs v keys).map _

lemma restores_scopeSelect (v : View) : (s : Select) →
    Restores (eraseSelect v.policy.tenantColumn v.tenant (scopeSelect v s).value) s
      (scopeSelect v s).added
  | { top, topFirst, distinct, items, into, tables, views, condition, groupAll, groupBy,
      groupModifiers, sorting, having, tail } => by
    obtain ⟨n, hn, htables, hpreds⟩ := owes_scopeTables v .joinCondition tables
    have hcondition := ((Extends.refl (restores_scopeOption v condition)).extended hpreds
      ).restores_condition
    simp only [scopeSelect, Counted.added_bind, Counted.added_pure, Counted.value_bind,
      Counted.value_pure, eraseSelect]
    refine Restores.of_eq ?_ ((restores_scopePieces v top).bind
      ((restores_scopeDistinct v distinct).bind ((restores_scopeItems v items).bind
      ((restores_scopePieces v views).bind ((restores_scopeExprs v groupBy).bind
      ((restores_scopePieces v sorting).bind ((restores_scopeOption v having).bind
      ((restores_scopePieces v tail).bind (htables.bind (hcondition.map _))))))))))
    omega

end

lemma owes_scopeTableOption (v : View) (placement : Placement) (t? : Option TableWithJoins) :
    Owes v.policy.tenantColumn v.tenant (eraseTableOption v.policy.tenantColumn v.tenant)
      (scopeTableOption v placement t?) t? := by
  cases t? with
  | none => exact ⟨0, rfl, Restores.pure _, List.forall_mem_nil _⟩
  | some t =>
    obtain ⟨n, hn, ht, hpreds⟩ := owes_scopeTable v placement t
    exact ⟨n, hn, ht.map _, hpreds⟩

lemma restores_scopeUpdate (v : View) (u : Update) :
    Restores (eraseUpdate v.policy.tenantColumn v.tenant (scopeUpdate v u).value) u
      (scopeUpdate v u).added := by
  obtain ⟨target, assignments, source?, condition, returning⟩ := u
  obtain ⟨n, hn, htarget, hfirst⟩ := owes_scopeTable v .statement target
  obtain ⟨k, hk, hsource, hothers⟩ := owes_scopeTableOption v .statement source?
  have hcondition := ((Extends.refl (restores_scopeOption v condition)).extended
    (List.forall_mem_append.mpr ⟨hfirst, hothers⟩)).restores_condition
  simp only [scopeUpdate, Counted.added_bind, Counted.added_pure, Counted.value_bind,
    Counted.value_pure, eraseUpdate]
  refine Restores.of_eq ?_ ((restores_scopePieces v assignments).bind
    (htarget.bind (hsource.bind (hcondition.map _))))
  rw [List.length_append]
  omega

lemma restores_scopeDelete (v : View) (d : Delete) :
    Restores (eraseDelete v.policy.tenantColumn v.tenant (scopeDelete v d).value) d
      (scopeDelete v d).added := by
  obtain ⟨named, fromKeyword, targets, sources, condition, tail⟩ := d
  obtain ⟨n, hn, htargets, hfirst⟩ := owes_scopeTables v .statement targets
  obtain ⟨k, hk, hsources, hothers⟩ := owes_scopeTables v .statement sources
  have hcondition := ((Extends.refl (restores_scopeOption v condition)).extended
    (List.forall_mem_append.mpr ⟨hfirst, hothers⟩)).restores_condition
  simp only [scopeDelete, Counted.added_bind, Counted.added_pure, Counted.value_bind,
    Counted.value_pure, eraseDelete]
  refine Restores.of_eq ?_ (htargets.bind (hsources.bind (hcondition.map _)))
  rw [List.length_append]
  omega

lemma restores_scopeStatement (v : View) (s : Statement) :
    Restores (eraseStatement v.policy.tenantColumn v.tenant (scopeStatement v s).value) s
      (scopeStatement v s).added := by
  cases s with
  | query q => exact (restores_scopeQuery v q).map _
  | update u => exact (restores_scopeUpdate v u).map _
  | delete d => exact (restores_scopeDelete v d).map _
  | other pieces => exact Restores.pure _

lemma scopeStatements_cons (v : View) (s : Statement) (ss : List Statement) :
    scopeStatements v (s :: ss) =
      do return (← scopeStatement v s) :: (← scopeStatements v ss) :=
  List.mapM_cons

lemma restores_scopeStatements (v : View) (ss : List Statement) :
    Restores (eraseStatements v.policy.tenantColumn v.tenant (scopeStatements v ss).value) ss
      (scopeStatements v ss).added := by
  induction ss with
  | nil => exact Restores.pure _
  | cons s ss ih =>
    rw [scopeStatements_cons, eraseStatements, Counted.value_bind, Counted.value_bind,
      Counted.value_pure, List.mapM_cons]
    exact (restores_scopeStatement v s).bind (ih.map _)

/-- Scoping for a tenant changes nothing but conditions and ON conditions, and adds to these only
predicates on the tenant column, each to the right of what was there, and parentheses around that:
taken out again, they leave exactly the statements that were scoped. -/
theorem eraseStatements_scopedStatements (p : Policy) (tenant : TenantId) (ss : List Statement) :
    ∃ edits, eraseStatements p.tenantColumn tenant (p.scopedStatements tenant ss).value edits =
      some (ss, []) := by
  obtain ⟨edits, -, herased⟩ := restores_scopeStatements ⟨p, tenant, []⟩ ss
  refine ⟨edits, ?_⟩
  have hall := herased []
  rw [List.append_nil] at hall
  exact hall

end RowFence.Scope
