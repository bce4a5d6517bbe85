import RowFence.Proofs.Scope.Additions
import RowFence.Proofs.Scope.Filling
import RowFence.Proofs.Scope.Slots

/-! Scoping fills each slot of a statement with the predicates of the tables that it gets one for,
and it does nothing else. -/

namespace RowFence.Scope

open Sql
open Meaning (Occurrence)

section Predicates

variable (column : String) (tenant : TenantId)

def predicateOf (place : Occurrence) : Expr := tenantPredicate place.name place.alias? column tenant

/-- The predicates that each slot gets, slot by slot. -/
def inserted (insertions : List (List Occurrence)) : List (List Expr) :=
  insertions.map (List.map (predicateOf column tenant))

end Predicates

def insertionCount (insertions : List (List Occurrence)) : Nat := (insertions.map List.length).sum

lemma insertionCount_append (first second : List (List Occurrence)) :
    insertionCount (first ++ second) = insertionCount first + insertionCount second := by
  rw [insertionCount, List.map_append, List.sum_append, insertionCount, insertionCount]

lemma insertionCount_singleton (places : List Occurrence) :
    insertionCount [places] = places.length :=
  Nat.add_zero _

/-- Scoping gives what filling the slots gives, and counts as many predicates. -/
structure Fills {α : Type} (column : String) (tenant : TenantId) (m : Filler α) (result : Counted α)
    (insertions : List (List Occurrence)) : Prop where
  run (rest : List (List Expr)) :
    m (inserted column tenant insertions ++ rest) = some (result.value, rest)
  added : result.added = insertionCount insertions

/-- The same of tables that come with predicates for a condition. Scoping counted these already. -/
structure Leaves {α : Type} (column : String) (tenant : TenantId) (m : Filler α)
    (result : Counted (α × List Expr)) (insertions : List (List Occurrence)) : Prop where
  run (rest : List (List Expr)) :
    m (inserted column tenant insertions ++ rest) = some (result.value.1, rest)
  added : result.added = insertionCount insertions + result.value.2.length

section

variable {α β γ : Type} {column : String} {tenant : TenantId}

lemma bind_apply {m : Filler α} {f : α → Filler β} {first second : List (List Occurrence)}
    {rest : List (List Expr)} {a : α}
    (h : ∀ rest, m (inserted column tenant first ++ rest) = some (a, rest)) :
    (m >>= f) (inserted column tenant (first ++ second) ++ rest) =
      f a (inserted column tenant second ++ rest) := by
  have hrun (s : List (List Expr)) : (m >>= f) s = (m s).bind fun r => f r.1 r.2 := rfl
  rw [hrun, inserted, List.map_append, List.append_assoc]
  exact congrArg (Option.bind · fun r => f r.1 r.2) (h _)

namespace Fills

lemma pure (a : α) : Fills column tenant (Pure.pure a) (Pure.pure a) [] := ⟨fun _ => rfl, rfl⟩

lemma bind {m : Filler α} {f : α → Filler β} {r : Counted α} {g : α → Counted β}
    {i j : List (List Occurrence)} (hm : Fills column tenant m r i)
    (hf : Fills column tenant (f r.value) (g r.value) j) :
    Fills column tenant (m >>= f) (r >>= g) (i ++ j) where
  run rest := by
    rw [bind_apply hm.run]
    exact hf.run rest
  added := by rw [Counted.added_bind, hm.added, hf.added, insertionCount_append]

lemma map {m : Filler α} {r : Counted α} {i : List (List Occurrence)}
    (hm : Fills column tenant m r i) (f : α → β) :
    Fills column tenant (m >>= fun a => Pure.pure (f a)) (r >>= fun a => Pure.pure (f a)) i := by
  have h := hm.bind (f := fun a => Pure.pure (f a)) (g := fun a => Pure.pure (f a)) (pure _)
  rwa [List.append_nil] at h

lemma append {m : Filler α} {f : α → Filler β} {r : Counted α} {g : α → Counted (β × List Expr)}
    {i j : List (List Occurrence)} (hm : Fills column tenant m r i)
    (hf : Leaves column tenant (f r.value) (g r.value) j) :
    Leaves column tenant (m >>= f) (r >>= g) (i ++ j) where
  run rest := by
    rw [bind_apply hm.run]
    exact hf.run rest
  added := by
    rw [Counted.added_bind, hm.added, hf.added, insertionCount_append, Nat.add_assoc]
    rfl

end Fills

namespace Leaves

lemma pure (a : α) : Leaves column tenant (Pure.pure a) (Pure.pure (a, [])) [] :=
  ⟨fun _ => rfl, rfl⟩

lemma counted (a : α) (ps : List Expr) : Leaves column tenant (Pure.pure a)
    (Scope.counted ps >>= fun ps => Pure.pure (a, ps)) [] :=
  ⟨fun _ => rfl, Nat.add_comm _ _⟩

lemma map {m : Filler α} {r : Counted (α × List Expr)} {i : List (List Occurrence)}
    (hm : Leaves column tenant m r i) (f : α → β) : Leaves column tenant
      (m >>= fun a => Pure.pure (f a)) (r >>= fun a => Pure.pure (f a.1, a.2)) i where
  run rest := by
    rw [← List.append_nil i, bind_apply hm.run]
    rfl
  added := hm.added

lemma both {m : Filler α} {k : Filler β} {r : Counted (α × List Expr)}
    {s : Counted (β × List Expr)} {i j : List (List Occurrence)} (hm : Leaves column tenant m r i)
    (hk : Leaves column tenant k s j) (f : α → β → γ) : Leaves column tenant
      (m >>= fun a => k >>= fun b => Pure.pure (f a b))
      (r >>= fun a => s >>= fun b => Pure.pure (f a.1 b.1, a.2 ++ b.2)) (i ++ j) where
  run rest := by
    rw [bind_apply hm.run]
    exact (hk.map (f r.value.1)).run rest
  added := by
    simp only [Counted.added_bind, Counted.added_pure, Counted.value_bind, Counted.value_pure,
      List.length_append, hm.added, hk.added, insertionCount_append]
    omega

lemma slots {m : Filler α} {k : Filler β} {r : Counted (α × List Expr)}
    {s : Counted (β × List Expr)} {i j : List (List Occurrence)} {places : List Occurrence}
    (hm : Leaves column tenant m r i) (hk : Leaves column tenant k s j)
    (hplaces : r.value.2 ++ s.value.2 = places.map (predicateOf column tenant))
    (f : α → β → List Expr → γ) : Fills column tenant
      (m >>= fun a => k >>= fun b => nextPredicates >>= fun ps => Pure.pure (f a b ps))
      (r >>= fun a => s >>= fun b => Pure.pure (f a.1 b.1 (a.2 ++ b.2)))
      (i ++ (j ++ [places])) where
  run rest := by
    rw [bind_apply hm.run, bind_apply hk.run, Counted.value_bind, Counted.value_bind,
      Counted.value_pure, hplaces]
    rfl
  added := by
    have hlength := congrArg List.length hplaces
    rw [List.length_append, List.length_map] at hlength
    simp only [Counted.added_bind, Counted.added_pure, hm.added, hk.added, insertionCount_append,
      insertionCount_singleton]
    omega

lemma slot {m : Filler α} {r : Counted (α × List Expr)} {i : List (List Occurrence)}
    {places : List Occurrence} (hm : Leaves column tenant m r i)
    (hplaces : r.value.2 = places.map (predicateOf column tenant)) (f : α → List Expr → β) :
    Fills column tenant (m >>= fun a => nextPredicates >>= fun ps => Pure.pure (f a ps))
      (r >>= fun a => Pure.pure (f a.1 a.2)) (i ++ [places]) where
  run rest := by
    rw [bind_apply hm.run, Counted.value_bind, Counted.value_pure, hplaces]
    rfl
  added := by
    rw [Counted.added_bind, Counted.added_pure, hm.added, hplaces, List.length_map,
      insertionCount_append, insertionCount_singleton, Nat.add_zero]

end Leaves

lemma Fills.table {m : Filler α} {r : Counted α} {i : List (List Occurrence)} {f : α → β}
    {g : α → Counted (β × List Expr)} (hm : Fills column tenant m r i)
    (hf : ∀ a, Leaves column tenant (Pure.pure (f a)) (g a) []) :
    Leaves column tenant (m >>= fun a => Pure.pure (f a)) (r >>= g) i := by
  have h := hm.append (f := fun a => Pure.pure (f a)) (g := g) (hf r.value)
  rwa [List.append_nil] at h

end

/-- A join constraint with predicates in its ON, if it has one. -/
def extendedOn (preds : List Expr) : JoinConstraint → JoinConstraint
  | .on e => .on (preds.foldl conjoin e)
  | j => j

def onCount (preds : List Expr) : JoinConstraint → Nat
  | .on _ => preds.length
  | _ => 0

/-- The predicates of those tables that need one. -/
def View.predicatesFor (v : View) (places : List Occurrence) : List Expr :=
  (places.filter (!v.exempts ·.name)).map (predicateOf v.policy.tenantColumn v.tenant)

section Joins

variable (v : View) (placement : Placement)

lemma extendedOn_nil (j : JoinConstraint) : extendedOn [] j = j := by cases j <;> rfl

lemma onCount_nil (j : JoinConstraint) : onCount [] j = 0 := by cases j <;> rfl

lemma placed_eq (base : Bool) (j : JoinConstraint) (preds : List Expr) :
    (if base then placed placement j preds else (j, preds)).1 =
        extendedOn (if base && placement = .joinCondition then preds else []) j ∧
      onCount (if base && placement = .joinCondition then preds else []) j +
        (if base then placed placement j preds else (j, preds)).2.length = preds.length := by
  have hnone (on : List Expr) (hon : on = []) :
      j = extendedOn on j ∧ onCount on j + preds.length = preds.length := by
    rw [hon, extendedOn_nil, onCount_nil]
    exact ⟨rfl, Nat.zero_add _⟩
  cases base with
  | false => exact hnone _ rfl
  | true =>
    cases placement with
    | statement => cases j <;> exact hnone _ rfl
    | joinCondition =>
      cases j with
      | on e => exact ⟨rfl, rfl⟩
      | _ => exact ⟨rfl, Nat.zero_add _⟩

lemma predicatesFor_onTables (t : TableFactor) : v.predicatesFor (onTables (some placement) t) =
    if isBase t && placement = .joinCondition then (scopeFactor v placement t).value.2 else [] := by
  cases t with
  | base name arguments alias? hints =>
    cases placement with
    | joinCondition =>
      simp only [scopeFactor, counted, Counted.value_bind, Counted.value_pure, View.predicates,
        View.predicatesFor, onTables, List.filter_singleton]
      cases v.exempts name <;> rfl
    | statement => rfl
  | _ => cases placement <;> rfl

lemma placed_scopeFactor (t : TableFactor) (j : JoinConstraint) :
    let preds := (scopeFactor v placement t).value.2
    let on := v.predicatesFor (onTables (some placement) t)
    (if isBase t then placed placement j preds else (j, preds)).1 = extendedOn on j ∧
      onCount on j + (if isBase t then placed placement j preds else (j, preds)).2.length =
        preds.length := by
  intro preds on
  have hon : on = if isBase t && placement = .joinCondition then preds else [] :=
    predicatesFor_onTables v placement t
  rw [hon]
  exact placed_eq placement (isBase t) j preds

end Joins

namespace Fills

variable {α β γ : Type} {column : String} {tenant : TenantId}

/-- The same of common tables, which come with the view after them. -/
lemma view {m : Filler α} {f : α → Filler β} {r : Counted (α × γ)} {g : α × γ → Counted β}
    {i j : List (List Occurrence)} (hm : Fills column tenant m ⟨r.value.1, r.added⟩ i)
    (hf : Fills column tenant (f r.value.1) (g r.value) j) :
    Fills column tenant (m >>= f) (r >>= g) (i ++ j) where
  run rest := by
    rw [bind_apply hm.run]
    exact hf.run rest
  added := by
    rw [Counted.added_bind, hf.added, insertionCount_append]
    exact congrArg (· + _) hm.added

end Fills

section Pending

variable (v : View) (placement : Placement)

lemma predicatesFor_append (first others : List Occurrence) :
    v.predicatesFor (first ++ others) = v.predicatesFor first ++ v.predicatesFor others := by
  rw [View.predicatesFor, List.filter_append, List.map_append]
  rfl

lemma predicatesFor_scopeTable (t : TableWithJoins) : (scopeTable v placement t).value.2 =
    v.predicatesFor ((Meaning.tableLayout t).remaining placement) := by
  rw [Meaning.pending_scopeTable, Meaning.Layout.pending_eq_filter]
  rfl

lemma predicatesFor_scopeTables (ts : List TableWithJoins) : (scopeTables v placement ts).value.2 =
    v.predicatesFor ((Meaning.tablesLayout ts).remaining placement) := by
  rw [Meaning.pending_scopeTables, Meaning.Layout.pending_eq_filter]
  rfl

lemma predicatesFor_scopeTableOption (t? : Option TableWithJoins) :
    (scopeTableOption v placement t?).value.2 =
      v.predicatesFor (tableOptionRemaining placement t?) := by
  cases t? with
  | none => rfl
  | some t => exact predicatesFor_scopeTable v placement t

end Pending

mutual

lemma fills_scopeExpr (v : View) : (e : Expr) →
    Fills v.policy.tenantColumn v.tenant (fillExpr e) (scopeExpr v e) (insertionsOf v (exprSlots e))
  | .name _ => by
    rw [scopeExpr, fillExpr]
    exact .pure _
  | .value _ => by
    rw [scopeExpr, fillExpr]
    exact .pure _
  | .binary l op r => by
    rw [scopeExpr, fillExpr, exprSlots, insertionsOf_append]
    exact (fills_scopeExpr v l).bind ((fills_scopeExpr v r).map _)
  | .nested e => by
    rw [scopeExpr, fillExpr, exprSlots]
    exact (fills_scopeExpr v e).map _
  | .call f rest => by
    rw [scopeExpr, fillExpr, exprSlots]
    exact (fills_scopePieces v rest).map _
  | .form pieces => by
    rw [scopeExpr, fillExpr, exprSlots]
    exact (fills_scopePieces v pieces).map _

lemma fills_scopeExprs (v : View) : (es : List Expr) →
    Fills v.policy.tenantColumn v.tenant (fillExprs es) (scopeExprs v es)
      (insertionsOf v (exprsSlots es))
  | [] => by
    rw [scopeExprs, fillExprs]
    exact .pure _
  | e :: es => by
    rw [scopeExprs, fillExprs, exprsSlots, insertionsOf_append]
    exact (fills_scopeExpr v e).bind ((fills_scopeExprs v es).map _)

lemma fills_scopeOption (v : View) : (e? : Option Expr) →
    Fills v.policy.tenantColumn v.tenant (fillOption e?) (scopeOption v e?)
      (insertionsOf v (optionSlots e?))
  | none => by
    rw [scopeOption, fillOption]
    exact .pure _
  | some e => by
    rw [scopeOption, fillOption, optionSlots]
    exact (fills_scopeExpr v e).map _

lemma fills_scopePieces (v : View) : (ps : List Piece) →
    Fills v.policy.tenantColumn v.tenant (fillPieces ps) (scopePieces v ps)
      (insertionsOf v (piecesSlots ps))
  | [] => by
    rw [scopePieces, fillPieces]
    exact .pure _
  | .text s :: ps => by
    rw [scopePieces, scopePiece, fillPieces, fillPiece, piecesSlots, pieceSlots]
    exact (Fills.pure _).bind ((fills_scopePieces v ps).map _)
  | .expr e :: ps => by
    rw [scopePieces, scopePiece, fillPieces, fillPiece, piecesSlots, pieceSlots,
      insertionsOf_append]
    exact ((fills_scopeExpr v e).map _).bind ((fills_scopePieces v ps).map _)
  | .query q :: ps => by
    rw [scopePieces, scopePiece, fillPieces, fillPiece, piecesSlots, pieceSlots,
      insertionsOf_append, insertionsOf_singleton]
    exact ((fills_scopeQuery v q).map _).bind ((fills_scopePieces v ps).map _)
  | .table t :: ps => by
    rw [scopePieces, scopePiece, fillPieces, fillPiece, piecesSlots, pieceSlots,
      insertionsOf_append]
    exact ((fills_scopeInner v t).map _).bind ((fills_scopePieces v ps).map _)

lemma fills_scopeInner (v : View) : (t : TableFactor) →
    Fills v.policy.tenantColumn v.tenant (fillFactor false t) (scopeInner v t)
      (insertionsOf v (factorSlots none t))
  | .base name arguments alias? hints => by
    rw [scopeInner, fillFactor, factorSlots, insertionsOf_append]
    exact (fills_scopePieces v arguments).bind ((fills_scopePieces v hints).map _)
  | .derived lateral q alias? => by
    rw [scopeInner, fillFactor]
    exact .pure _
  | .nested inner alias? => by
    rw [scopeInner, fillFactor, factorSlots]
    exact (fills_scopeInnerTable v inner).map _
  | .other pieces alias? tail => by
    rw [scopeInner, fillFactor, factorSlots, insertionsOf_append]
    exact (fills_scopePieces v pieces).bind ((fills_scopePieces v tail).map _)

lemma fills_scopeConstraint (v : View) (places : List Occurrence) : (j : JoinConstraint) →
    Fills v.policy.tenantColumn v.tenant (fillConstraint j)
      ⟨extendedOn (v.predicatesFor places) (scopeConstraint v j).value,
        (scopeConstraint v j).added + onCount (v.predicatesFor places) (scopeConstraint v j).value⟩
      (insertionsOf v (constraintSlots places j))
  | .on e => by
    have he := fills_scopeExpr v e
    rw [scopeConstraint, fillConstraint, constraintSlots, insertionsOf_append]
    refine ⟨fun rest => ?_, ?_⟩
    · rw [bind_apply he.run]
      rfl
    · rw [insertionCount_append, ← he.added, insertionsOf_singleton, SlotTree.insertions,
        insertionCount_singleton]
      exact congrArg (_ + ·) (List.length_map _)
  | .shared _ => .pure _
  | .natural => .pure _
  | .none => .pure _

lemma fills_scopeInnerJoins (v : View) : (js : List Join) →
    Fills v.policy.tenantColumn v.tenant (fillJoins false js) (scopeInnerJoins v js)
      (insertionsOf v (joinsSlots none js))
  | [] => by
    rw [scopeInnerJoins, fillJoins]
    exact .pure _
  | { isGlobal, op, relation, matching, constraint } :: js => by
    have hconstraint := fills_scopeConstraint v [] constraint
    rw [View.predicatesFor, List.filter_nil, List.map_nil, extendedOn_nil, onCount_nil]
      at hconstraint
    simp only [scopeInnerJoins, fillJoins, joinsSlots, insertionsOf_append]
    exact (fills_scopeInner v relation).bind ((fills_scopeOption v matching).bind
      (hconstraint.bind ((fills_scopeInnerJoins v js).map _)))

lemma fills_scopeInnerTable (v : View) : (t : TableWithJoins) →
    Fills v.policy.tenantColumn v.tenant (fillTable false t) (scopeInnerTable v t)
      (insertionsOf v (tableSlots none t))
  | { relation, joins } => by
    rw [scopeInnerTable, fillTable, tableSlots, insertionsOf_append]
    exact (fills_scopeInner v relation).bind ((fills_scopeInnerJoins v joins).map _)

lemma leaves_scopeFactor (v : View) (placement : Placement) : (t : TableFactor) →
    Leaves v.policy.tenantColumn v.tenant (fillFactor true t) (scopeFactor v placement t)
      (insertionsOf v (factorSlots (some placement) t))
  | .base name arguments alias? hints => by
    rw [scopeFactor, fillFactor, factorSlots, insertionsOf_append]
    exact (fills_scopePieces v arguments).append
      ((fills_scopePieces v hints).table fun _ => .counted _ _)
  | .derived lateral q alias? => by
    rw [scopeFactor, fillFactor, factorSlots, if_pos rfl, Option.isSome_some, if_pos rfl,
      insertionsOf_singleton]
    exact (fills_scopeQuery v q).table fun _ => .pure _
  | .nested inner alias? => by
    rw [scopeFactor, fillFactor, factorSlots]
    exact (leaves_scopeTable v placement inner).map _
  | .other pieces alias? tail => by
    rw [scopeFactor, fillFactor, factorSlots, insertionsOf_append]
    exact (fills_scopePieces v pieces).append ((fills_scopePieces v tail).table fun _ => .pure _)

lemma leaves_scopeJoins (v : View) (placement : Placement) : (js : List Join) →
    Leaves v.policy.tenantColumn v.tenant (fillJoins true js) (scopeJoins v placement js)
      (insertionsOf v (joinsSlots (some placement) js))
  | [] => .pure _
  | { isGlobal, op, relation, matching, constraint } :: js => by
    have hrelation := leaves_scopeFactor v placement relation
    have hmatching := fills_scopeOption v matching
    have hconstraint := fills_scopeConstraint v (onTables (some placement) relation) constraint
    have hjoins := leaves_scopeJoins v placement js
    -- The predicates of the joined table go into its ON or are left, and were counted with it.
    obtain ⟨hplaced, hcount⟩ := placed_scopeFactor v placement relation
      (scopeConstraint v constraint).value
    rw [← hplaced] at hconstraint
    simp only [scopeJoins, fillJoins, joinsSlots, insertionsOf_append]
    refine ⟨fun rest => ?_, ?_⟩
    · rw [bind_apply hrelation.run, bind_apply hmatching.run, bind_apply hconstraint.run]
      exact (hjoins.map _).run rest
    · simp only [Counted.added_bind, Counted.added_pure, Counted.value_bind, Counted.value_pure,
        List.length_append, insertionCount_append, hrelation.added, hmatching.added,
        ← hconstraint.added, hjoins.added]
      omega

lemma leaves_scopeTable (v : View) (placement : Placement) : (t : TableWithJoins) →
    Leaves v.policy.tenantColumn v.tenant (fillTable true t) (scopeTable v placement t)
      (insertionsOf v (tableSlots (some placement) t))
  | { relation, joins } => by
    rw [scopeTable, fillTable, tableSlots, insertionsOf_append]
    exact (leaves_scopeFactor v placement relation).both (leaves_scopeJoins v placement joins) _

lemma leaves_scopeTables (v : View) (placement : Placement) : (ts : List TableWithJoins) →
    Leaves v.policy.tenantColumn v.tenant (fillTables ts) (scopeTables v placement ts)
      (insertionsOf v (tablesSlots placement ts))
  | [] => .pure _
  | t :: ts => by
    rw [scopeTables, fillTables, tablesSlots, insertionsOf_append]
    exact (leaves_scopeTable v placement t).both (leaves_scopeTables v placement ts) _

lemma fills_scopeCtes (v : View) : (cs : List Cte) →
    Fills v.policy.tenantColumn v.tenant (fillCtes cs)
      ⟨(scopeCtes v cs).value.1, (scopeCtes v cs).added⟩ (cteInsertions v (ctesSlots cs))
  | [] => .pure _
  | { given, query, source?, materialized } :: cs => by
    rw [scopeCtes, fillCtes, ctesSlots, cteInsertions]
    exact (fills_scopeQuery v query).bind (g := fun query => ⟨_, _⟩)
      ((fills_scopeCtes (v.withHidden given.name) cs).map _)

lemma fills_scopeKeys (v : View) : (ks : List OrderKey) →
    Fills v.policy.tenantColumn v.tenant (fillKeys ks) (scopeKeys v ks)
      (insertionsOf v (keysSlots ks))
  | [] => by
    rw [scopeKeys, fillKeys]
    exact .pure _
  | { key, direction, fill } :: ks => by
    simp only [scopeKeys, fillKeys, keysSlots, insertionsOf_append]
    exact (fills_scopeExpr v key).bind
      ((fills_scopePieces v fill).bind ((fills_scopeKeys v ks).map _))

lemma fills_scopeQuery (v : View) : (q : Query) →
    Fills v.policy.tenantColumn v.tenant (fillQuery q) (scopeQuery v q)
      ((querySlots q).insertions v)
  | { recursive, ctes, body, orderBy, interpolate, limit, tail } => by
    obtain ⟨-, hview⟩ := after_scopeCtes v ctes
    obtain ⟨hpolicy, htenant⟩ := view_scopeCtes v ctes
    -- After its common tables a query sees other base tables, but the predicates look the same.
    have hbody := fills_scopeBody (scopeCtes v ctes).value.2 body
    have horderBy := fills_scopeKeys (scopeCtes v ctes).value.2 orderBy
    have hinterpolate := fills_scopePieces (scopeCtes v ctes).value.2 interpolate
    have hlimit := fills_scopeOption (scopeCtes v ctes).value.2 limit
    rw [hpolicy, htenant] at hbody horderBy hinterpolate hlimit
    simp only [scopeQuery, fillQuery, querySlots, SlotTree.insertions, insertionsOf_append,
      beyond_ctesSlots, ← hview]
    exact (fills_scopeCtes v ctes).view
      (hbody.bind (horderBy.bind (hinterpolate.bind (hlimit.map _))))

lemma fills_scopeBody (v : View) : (b : Body) →
    Fills v.policy.tenantColumn v.tenant (fillBody b) (scopeBody v b) (insertionsOf v (bodySlots b))
  | .select s => by
    rw [scopeBody, fillBody, bodySlots]
    exact (fills_scopeSelect v s).map _
  | .setOp l op quantifier r => by
    rw [scopeBody, fillBody, bodySlots, insertionsOf_append]
    exact (fills_scopeBody v l).bind ((fills_scopeBody v r).map _)
  | .query q => by
    rw [scopeBody, fillBody, bodySlots, insertionsOf_singleton]
    exact (fills_scopeQuery v q).map _
  | .rows _ => .pure _
  | .table _ => .pure _
  | .change _ => .pure _

lemma fills_scopeItems (v : View) : (is : List SelectItem) →
    Fills v.policy.tenantColumn v.tenant (fillItems is) (scopeItems v is)
      (insertionsOf v (itemsSlots is))
  | [] => by
    rw [scopeItems, fillItems]
    exact .pure _
  | .expr e alias? :: is => by
    rw [scopeItems, fillItems, itemsSlots, insertionsOf_append]
    exact (fills_scopeExpr v e).bind ((fills_scopeItems v is).map _)
  | .wildcard qualifier options :: is => by
    rw [scopeItems, fillItems, itemsSlots, insertionsOf_append]
    exact (fills_scopePieces v options).bind ((fills_scopeItems v is).map _)

lemma fills_scopeDistinct (v : View) : (d : Distinct) →
    Fills v.policy.tenantColumn v.tenant (fillDistinct d) (scopeDistinct v d)
      (insertionsOf v (distinctSlots d))
  | .none => .pure _
  | .rows => .pure _
  | .on keys => by
    rw [scopeDistinct, fillDistinct, distinctSlots]
    exact (fills_scopeExprs v keys).map _

lemma fills_scopeSelect (v : View) : (s : Select) →
    Fills v.policy.tenantColumn v.tenant (fillSelect s) (scopeSelect v s)
      (insertionsOf v (selectSlots s))
  | { top, topFirst, distinct, items, into, tables, views, condition, groupAll, groupBy,
      groupModifiers, sorting, having, tail } => by
    have htables := leaves_scopeTables v .joinCondition tables
    have hslot := predicatesFor_scopeTables v .joinCondition tables
    simp only [scopeSelect, fillSelect, selectSlots, insertionsOf_append, insertionsOf_singleton,
      SlotTree.insertions]
    exact (fills_scopePieces v top).bind ((fills_scopeDistinct v distinct).bind
      ((fills_scopeItems v items).bind ((fills_scopePieces v views).bind
      ((fills_scopeOption v condition).bind ((fills_scopeExprs v groupBy).bind
      ((fills_scopePieces v sorting).bind ((fills_scopeOption v having).bind
      ((fills_scopePieces v tail).bind (htables.slot hslot _)))))))))

end

section Statements

lemma leaves_scopeTableOption (v : View) (t? : Option TableWithJoins) :
    Leaves v.policy.tenantColumn v.tenant (fillTableOption t?) (scopeTableOption v .statement t?)
      (insertionsOf v (tableOptionSlots .statement t?)) := by
  cases t? with
  | none => exact .pure _
  | some t => exact (leaves_scopeTable v .statement t).map _

lemma fills_scopeUpdate (v : View) (u : Update) :
    Fills v.policy.tenantColumn v.tenant (fillUpdate u) (scopeUpdate v u)
      (insertionsOf v (statementSlots (.update u))) := by
  obtain ⟨target, assignments, source?, condition, returning⟩ := u
  have hslot := predicatesFor_append v ((Meaning.tableLayout target).remaining .statement)
    (tableOptionRemaining .statement source?)
  rw [← predicatesFor_scopeTable, ← predicatesFor_scopeTableOption] at hslot
  simp only [scopeUpdate, fillUpdate, statementSlots, insertionsOf_append, insertionsOf_singleton,
    SlotTree.insertions]
  exact (fills_scopePieces v assignments).bind ((fills_scopeOption v condition).bind
    ((leaves_scopeTable v .statement target).slots (leaves_scopeTableOption v source?)
      hslot.symm _))

lemma fills_scopeDelete (v : View) (d : Delete) :
    Fills v.policy.tenantColumn v.tenant (fillDelete d) (scopeDelete v d)
      (insertionsOf v (statementSlots (.delete d))) := by
  obtain ⟨named, fromKeyword, targets, sources, condition, tail⟩ := d
  have hslot := predicatesFor_append v ((Meaning.tablesLayout targets).remaining .statement)
    ((Meaning.tablesLayout sources).remaining .statement)
  rw [← predicatesFor_scopeTables, ← predicatesFor_scopeTables] at hslot
  simp only [scopeDelete, fillDelete, statementSlots, insertionsOf_append, insertionsOf_singleton,
    SlotTree.insertions]
  exact (fills_scopeOption v condition).bind ((leaves_scopeTables v .statement targets).slots
    (leaves_scopeTables v .statement sources) hslot.symm _)

lemma fills_scopeStatement (v : View) (s : Statement) :
    Fills v.policy.tenantColumn v.tenant (fillStatement s) (scopeStatement v s)
      (insertionsOf v (statementSlots s)) := by
  cases s with
  | query q =>
    rw [statementSlots, insertionsOf_singleton]
    exact (fills_scopeQuery v q).map _
  | update u => exact (fills_scopeUpdate v u).map _
  | delete d => exact (fills_scopeDelete v d).map _
  | other pieces => exact .pure _

lemma fills_scopeStatements (v : View) (ss : List Statement) :
    Fills v.policy.tenantColumn v.tenant (fillStatements ss) (scopeStatements v ss)
      (insertionsOf v (statementsSlots ss)) := by
  induction ss with
  | nil => exact .pure _
  | cons s ss ih =>
    rw [scopeStatements_cons, fillStatements, statementsSlots, insertionsOf_append]
    exact (fills_scopeStatement v s).bind (ih.map _)

/-- Scoping for a tenant is filling each slot with the predicates of its tables that need one, and
adds as many predicates. -/
theorem fillStatements_scopedStatements (p : Policy) (tenant : TenantId) (ss : List Statement) :
    let insertions := insertionsOf ⟨p, tenant, []⟩ (statementsSlots ss)
    fillStatements ss (inserted p.tenantColumn tenant insertions) =
        some ((p.scopedStatements tenant ss).value, []) ∧
      (p.scopedStatements tenant ss).added = insertionCount insertions := by
  obtain ⟨hrun, hadded⟩ := fills_scopeStatements ⟨p, tenant, []⟩ ss
  have hall := hrun []
  rw [List.append_nil] at hall
  exact ⟨hall, hadded⟩

end Statements

end RowFence.Scope
