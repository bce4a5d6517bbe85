import Mathlib.Data.List.Basic
import RowFence.Proofs.Scope.Additions

/-! Where the predicates of a join tree go. Each table that needs one has it in the ON of its own join
or in the list that is left for the condition of the statement, and in no other place. -/

namespace RowFence.Scope

open Sql

def JoinConstraint.on? : JoinConstraint → Option Expr
  | .on e => some e
  | .shared _ => none
  | .natural => none
  | .none => none

/-- One of the tables that a join tree is made of, with the ON of the join that it is the right side
of. -/
structure Item where
  factor : TableFactor
  on? : Option Expr

mutual

/-- The items of a join in parentheses. -/
def innerItems : TableFactor → List Item
  | .base .. => []
  | .derived .. => []
  | .nested inner _ => tableItems inner
  | .other .. => []

def joinItems : List Join → List Item
  | [] => []
  | { relation, constraint, .. } :: js =>
    ⟨relation, JoinConstraint.on? constraint⟩ :: (innerItems relation ++ joinItems js)

/-- The items of a join tree from left to right. A join in parentheses is one, and its own items
come after it. -/
def tableItems : TableWithJoins → List Item
  | { relation, joins } => ⟨relation, none⟩ :: (innerItems relation ++ joinItems joins)

end

/-- What the columns of a table are qualified by. -/
def qualifier (name : Name) : Option TableAlias → Name
  | some a => [a.name]
  | none => name

/-- The predicates that a table needs itself: one if it is named and neither excluded nor a common
table, and none otherwise. -/
def ownPredicates (v : View) : TableFactor → List Expr
  | .base name _ alias? _ =>
    if v.policy.excludesTable (Name.spelling name) || v.hides name then []
    else
      [.binary (.name (qualifier name alias? ++ [⟨v.policy.tenantColumn, none⟩])) .eq
        (.value v.tenant.spelling)]
  | .derived .. => []
  | .nested .. => []
  | .other .. => []

namespace Item

def predicates (v : View) (i : Item) : List Expr := ownPredicates v i.factor

/-- The predicates that go into the ON of an item. -/
def placed (v : View) : Placement → Item → List Expr
  | .joinCondition, i => if i.on?.isSome then i.predicates v else []
  | .statement, _ => []

/-- The predicates of an item that are left for the condition of the statement. -/
def pending (v : View) : Placement → Item → List Expr
  | .joinCondition, i => if i.on?.isSome then [] else i.predicates v
  | .statement, i => i.predicates v

def outcome (v : View) (placement : Placement) (i : Item) : Item where
  factor := (scopeFactor v placement i.factor).value.1
  on? := (scopeOption v i.on?).value.map ((i.placed v placement).foldl conjoin)

end Item

section Trees

variable (v : View) (placement : Placement)

lemma ownPredicates_base (name : Name) (arguments hints : List Piece) (alias? : Option TableAlias) :
    ownPredicates v (.base name arguments alias? hints) = v.predicates name alias? := by
  cases alias? <;> rfl

lemma ownPredicates_of_not_isBase {t : TableFactor} (h : isBase t = false) :
    ownPredicates v t = [] := by
  cases t with
  | base => cases h
  | _ => rfl

lemma innerItems_of_isBase {t : TableFactor} (h : isBase t = true) : innerItems t = [] := by
  cases t with
  | nested => cases h
  | _ => rfl

lemma on?_scopeConstraint (constraint : JoinConstraint) :
    JoinConstraint.on? (scopeConstraint v constraint).value =
      (scopeOption v (JoinConstraint.on? constraint)).value := by
  cases constraint <;> rfl

/-- What becomes of the constraint of a join, and what the join leaves over. -/
lemma placed_join (t : TableFactor) (constraint : JoinConstraint) (inner : List Expr)
    (hinner : isBase t = true → inner = []) :
    let item : Item := ⟨t, JoinConstraint.on? constraint⟩
    let preds := ownPredicates v t ++ inner
    let placed := if isBase t then placed placement (scopeConstraint v constraint).value preds
      else ((scopeConstraint v constraint).value, preds)
    JoinConstraint.on? placed.1 = (item.outcome v placement).on? ∧
      placed.2 = item.pending v placement ++ inner := by
  intro item preds placed
  cases hbase : isBase t with
  | true =>
    have hpreds : preds = item.predicates v := by
      simp [preds, item, Item.predicates, hinner hbase]
    simp only [placed, hbase, hinner hbase, hpreds, if_true, List.append_nil]
    cases placement <;> cases constraint <;> exact ⟨rfl, rfl⟩
  | false =>
    have hnone : item.predicates v = [] := ownPredicates_of_not_isBase v hbase
    have hpreds : preds = inner := by
      simp [preds, ownPredicates_of_not_isBase v hbase]
    have hpending : item.pending v placement = [] := by
      cases placement <;> simp [Item.pending, hnone]
    have hplaced : item.placed v placement = [] := by
      cases placement <;> simp [Item.placed, hnone]
    simp only [placed, hbase, Bool.false_eq_true, if_false, hpreds, hpending, List.nil_append,
      Item.outcome, hplaced, List.foldl_nil, Option.map_id', on?_scopeConstraint, and_true, item]

mutual

lemma innerItems_scopeFactor : (t : TableFactor) →
    innerItems (scopeFactor v placement t).value.1 =
        (innerItems t).map (Item.outcome v placement) ∧
      (scopeFactor v placement t).value.2 =
        ownPredicates v t ++ (innerItems t).flatMap (Item.pending v placement)
  | .base name arguments alias? hints => by
    simp only [scopeFactor, counted, Counted.value_bind, Counted.value_pure, innerItems,
      ownPredicates_base, List.map_nil, List.flatMap_nil, List.append_nil, and_self]
  | .derived .. => ⟨rfl, rfl⟩
  | .nested inner alias? => tableItems_scopeTable inner
  | .other .. => ⟨rfl, rfl⟩

lemma joinItems_scopeJoins : (js : List Join) →
    joinItems (scopeJoins v placement js).value.1 = (joinItems js).map (Item.outcome v placement) ∧
      (scopeJoins v placement js).value.2 = (joinItems js).flatMap (Item.pending v placement)
  | [] => ⟨rfl, rfl⟩
  | { isGlobal, op, relation, matching, constraint } :: js => by
    obtain ⟨hinner, hpreds⟩ := innerItems_scopeFactor relation
    obtain ⟨hjoins, hothers⟩ := joinItems_scopeJoins js
    obtain ⟨hon, hleft⟩ := placed_join v placement relation constraint
      ((innerItems relation).flatMap (Item.pending v placement))
      (fun h => by rw [innerItems_of_isBase h, List.flatMap_nil])
    simp only [scopeJoins, Counted.value_bind, Counted.value_pure, joinItems, List.map_cons,
      List.map_append, List.flatMap_cons, List.flatMap_append, hinner, hpreds, hjoins, hothers, hon,
      hleft, List.append_assoc]
    exact ⟨rfl, trivial⟩

lemma tableItems_scopeTable : (t : TableWithJoins) →
    tableItems (scopeTable v placement t).value.1 = (tableItems t).map (Item.outcome v placement) ∧
      (scopeTable v placement t).value.2 = (tableItems t).flatMap (Item.pending v placement)
  | { relation, joins } => by
    obtain ⟨hinner, hpreds⟩ := innerItems_scopeFactor relation
    obtain ⟨hjoins, hothers⟩ := joinItems_scopeJoins joins
    have hfirst : ownPredicates v relation = Item.pending v placement ⟨relation, none⟩ := by
      cases placement <;> rfl
    simp only [scopeTable, Counted.value_bind, Counted.value_pure, tableItems, List.map_cons,
      List.map_append, List.flatMap_cons, List.flatMap_append, hinner, hpreds, hjoins, hothers,
      hfirst, List.append_assoc]
    exact ⟨rfl, trivial⟩

end

lemma scopeTables_eq (ts : List TableWithJoins) :
    (scopeTables v placement ts).value =
      (ts.map fun t => (scopeTable v placement t).value.1,
        ts.flatMap fun t => (scopeTable v placement t).value.2) := by
  induction ts with
  | nil => rfl
  | cons t ts ih =>
    simp only [scopeTables, Counted.value_bind, Counted.value_pure, List.map_cons, List.flatMap_cons,
      ih]

lemma scopeTableOption_eq (t? : Option TableWithJoins) :
    (scopeTableOption v placement t?).value =
      (t?.map fun t => (scopeTable v placement t).value.1,
        t?.toList.flatMap fun t => (scopeTable v placement t).value.2) := by
  cases t? with
  | none => rfl
  | some t => exact congrArg (Prod.mk _) (List.append_nil _).symm

end Trees

section Conditions

/-- The conditions that a condition is the conjunction of. -/
def conjuncts : Expr → List Expr
  | .binary l .and r => conjuncts l ++ conjuncts r
  | .nested e => conjuncts e
  | e => [e]

def conjunctsOf (condition : Option Expr) : List Expr := condition.toList.flatMap conjuncts

lemma conjuncts_grouped (e : Expr) : conjuncts (grouped e) = conjuncts e := by
  unfold grouped
  split
  · rfl
  · split
    · rw [conjuncts]
    · rfl

lemma conjuncts_foldl_conjoin {ps : List Expr} (h : ∀ p ∈ ps, conjuncts p = [p]) (e : Expr) :
    conjuncts (ps.foldl conjoin e) = conjuncts e ++ ps := by
  induction ps generalizing e with
  | nil => exact (List.append_nil _).symm
  | cons p ps ih =>
    obtain ⟨hp, hps⟩ := List.forall_mem_cons.mp h
    rw [List.foldl_cons, ih hps, conjoin, conjuncts, conjuncts_grouped, hp, List.append_assoc,
      List.singleton_append]

lemma conjunctsOf_extended {ps : List Expr} (h : ∀ p ∈ ps, conjuncts p = [p])
    (condition : Option Expr) :
    conjunctsOf (extended condition ps) = conjunctsOf condition ++ ps := by
  have hsome : ∀ e, conjunctsOf (some e) = conjuncts e := fun e => List.append_nil _
  cases condition with
  | some e => rw [extended_some, hsome, conjuncts_foldl_conjoin h, hsome]
  | none =>
    cases ps with
    | nil => rfl
    | cons p ps =>
      obtain ⟨hp, hps⟩ := List.forall_mem_cons.mp h
      rw [extended, extended_some, hsome, conjuncts_foldl_conjoin hps, hp]
      rfl

variable {v : View}

lemma conjuncts_ownPredicates {t : TableFactor} {p : Expr} (hp : p ∈ ownPredicates v t) :
    conjuncts p = [p] := by
  cases t with
  | base name arguments alias? hints =>
    rw [ownPredicates] at hp
    split at hp
    · cases hp
    · rw [List.mem_singleton.mp hp]
      rfl
  | _ => cases hp

lemma conjuncts_pending {placement : Placement} {t : TableWithJoins} {p : Expr}
    (hp : p ∈ (scopeTable v placement t).value.2) : conjuncts p = [p] := by
  rw [(tableItems_scopeTable v placement t).2] at hp
  obtain ⟨i, -, hi⟩ := List.mem_flatMap.mp hp
  have hown : p ∈ i.predicates v := by
    cases placement with
    | statement => exact hi
    | joinCondition =>
      rw [Item.pending] at hi
      split at hi
      · cases hi
      · exact hi
  exact conjuncts_ownPredicates hown

lemma conjunctsOf_extended_pending (placement : Placement) (ts : List TableWithJoins)
    (condition : Option Expr) :
    conjunctsOf (extended condition (ts.flatMap fun t => (scopeTable v placement t).value.2)) =
      conjunctsOf condition ++ ts.flatMap fun t => (scopeTable v placement t).value.2 := by
  apply conjunctsOf_extended
  intro p hp
  obtain ⟨t, -, ht⟩ := List.mem_flatMap.mp hp
  exact conjuncts_pending ht

end Conditions

lemma flatMap_pending_joinCondition (v : View) (items : List Item) :
    items.flatMap (Item.pending v .joinCondition) =
      (items.filter fun i => i.on?.isNone).flatMap (Item.predicates v) := by
  induction items with
  | nil => rfl
  | cons i items ih =>
    obtain ⟨factor, on?⟩ := i
    cases on? <;> simp [Item.pending, ih]

/-- Where the predicates of a FROM clause go. With `JoinCondition` placement the ON of a join takes
the predicate of the table that it joins, and those of the other tables are left for the condition of
the statement, from left to right. With `Where` placement all of them are left. The conditions of
queries and row changes are extended by all that is left. -/
theorem predicates_placed (v : View) :
    (∀ t : TableWithJoins,
      let items := tableItems t
      (scopeTable v .joinCondition t).value.2 =
          (items.filter fun i => i.on?.isNone).flatMap (Item.predicates v) ∧
        (tableItems (scopeTable v .joinCondition t).value.1).map Item.on? =
          items.map (fun i => i.on?.map fun e =>
            (i.predicates v).foldl conjoin (scopeExpr v e).value) ∧
        (scopeTable v .statement t).value.2 = items.flatMap (Item.predicates v) ∧
        (tableItems (scopeTable v .statement t).value.1).map Item.on? =
          items.map (fun i => i.on?.map fun e => (scopeExpr v e).value)) ∧
      (∀ (i : Item) (e : Expr),
        conjuncts ((i.predicates v).foldl conjoin e) = conjuncts e ++ i.predicates v) ∧
      (∀ s : Select,
        (scopeSelect v s).value.tables =
            s.tables.map (fun t => (scopeTable v .joinCondition t).value.1) ∧
          conjunctsOf (scopeSelect v s).value.condition =
            conjunctsOf (scopeOption v s.condition).value ++
              s.tables.flatMap fun t => (scopeTable v .joinCondition t).value.2) ∧
      (∀ u : Update,
        (scopeUpdate v u).value.target = (scopeTable v .statement u.target).value.1 ∧
          (scopeUpdate v u).value.source? =
            u.source?.map (fun t => (scopeTable v .statement t).value.1) ∧
          conjunctsOf (scopeUpdate v u).value.condition =
            conjunctsOf (scopeOption v u.condition).value ++
              (u.target :: u.source?.toList).flatMap fun t => (scopeTable v .statement t).value.2) ∧
      ∀ d : Delete,
        (scopeDelete v d).value.targets =
            d.targets.map (fun t => (scopeTable v .statement t).value.1) ∧
          (scopeDelete v d).value.sources =
            d.sources.map (fun t => (scopeTable v .statement t).value.1) ∧
          conjunctsOf (scopeDelete v d).value.condition =
            conjunctsOf (scopeOption v d.condition).value ++
              (d.targets ++ d.sources).flatMap fun t => (scopeTable v .statement t).value.2 := by
  refine ⟨fun t => ?_, fun i e => ?_, fun s => ?_, fun u => ?_, fun d => ?_⟩
  · obtain ⟨hjoin, hjoinPending⟩ := tableItems_scopeTable v .joinCondition t
    obtain ⟨hstatement, hpending⟩ := tableItems_scopeTable v .statement t
    refine ⟨hjoinPending.trans (flatMap_pending_joinCondition v _), ?_, hpending, ?_⟩
    · rw [hjoin, List.map_map]
      refine List.map_congr_left fun i _ => ?_
      obtain ⟨factor, on?⟩ := i
      cases on? <;> rfl
    · rw [hstatement, List.map_map]
      refine List.map_congr_left fun i _ => ?_
      obtain ⟨factor, on?⟩ := i
      cases on? <;> rfl
  · exact conjuncts_foldl_conjoin (fun p hp => conjuncts_ownPredicates hp) e
  · cases s
    simp only [scopeSelect, Counted.value_bind, Counted.value_pure, scopeTables_eq,
      conjunctsOf_extended_pending, and_self]
  · simp only [scopeUpdate, Counted.value_bind, Counted.value_pure, scopeTableOption_eq, true_and]
    exact conjunctsOf_extended_pending .statement (u.target :: u.source?.toList) _
  · simp only [scopeDelete, Counted.value_bind, Counted.value_pure, scopeTables_eq, true_and]
    rw [← List.flatMap_append]
    exact conjunctsOf_extended_pending .statement (d.targets ++ d.sources) _

end RowFence.Scope
