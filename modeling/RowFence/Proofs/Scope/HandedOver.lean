import Mathlib.Algebra.Ring.Nat
import RowFence.Proofs.Scope.Visitor

/-! What scoping makes of the constructs that the visitor is sent through. Their outermost queries are
scoped where they stand, and the predicates that are added are those of these queries. Tables and
SELECTs are first visited; then the predicates of their own tables are placed. -/

namespace RowFence.Scope

open Sql Construct

def handed (cs : List Construct) : List Query := cs.flatMap (outermost .written)

/-- Scoped constructs have scoped queries in the places of those that are handed over, and as many
predicates more as these. -/
structure ScopesHanded (v : View) (before after : List Construct) (added : Nat) : Prop where
  queries : handed after = (handed before).map fun q => (scopeQuery v q).value
  added_eq : added = ((handed before).map fun q => (scopeQuery v q).added).sum

namespace ScopesHanded

variable {v : View} {before before' after after' : List Construct} {added added' : Nat}

lemma append (h : ScopesHanded v before after added) (h' : ScopesHanded v before' after' added') :
    ScopesHanded v (before ++ before') (after ++ after') (added + added') where
  queries := by
    rw [handed, handed, List.flatMap_append, List.flatMap_append, List.map_append]
    exact congrArg₂ _ h.queries h'.queries
  added_eq := by
    rw [handed, List.flatMap_append, List.map_append, List.sum_append]
    exact congrArg₂ _ h.added_eq h'.added_eq

lemma of_eq (h : ScopesHanded v before after added) (hadded : added' = added) :
    ScopesHanded v before after added' := hadded ▸ h

lemma unchanged {cs : List Construct} (h : handed cs = []) : ScopesHanded v cs cs 0 where
  queries := by rw [h]; rfl
  added_eq := by rw [h]; rfl

lemma nil : ScopesHanded v [] [] 0 := .unchanged rfl

lemma query (q : Query) :
    ScopesHanded v [.query q] [.query (scopeQuery v q).value] (scopeQuery v q).added where
  queries := by
    simp only [handed, List.flatMap_singleton, outermost_query, List.map_singleton]
  added_eq := by
    simp only [handed, List.flatMap_singleton, outermost_query, List.map_singleton, List.sum_singleton]

lemma derived (lateral : Bool) (q : Query) (alias? : Option TableAlias) :
    ScopesHanded v [factor (.derived lateral q alias?)] [factor (.derived lateral q alias?)] 0 :=
  .unchanged (by rw [handed, List.flatMap_singleton, outermost_derived])

lemma parts {c c' : Construct} (hc : c.encloses = false) (hc' : c'.encloses = false)
    (h : ScopesHanded v c.parts c'.parts added) : ScopesHanded v [c] [c'] added := by
  have hhanded {c : Construct} (hc : c.encloses = false) : handed [c] = handed c.parts := by
    rw [handed, List.flatMap_singleton, outermost_eq_flatMap .written hc]
    rfl
  exact ⟨by rw [hhanded hc, hhanded hc', h.queries], by rw [hhanded hc, ← h.added_eq]⟩

lemma names (names : List Ident) : ScopesHanded v (names.map given) (names.map given) 0 := by
  induction names with
  | nil => exact .nil
  | cons name names ih => exact (parts (c := given name) rfl rfl .nil).append ih

lemma tableAlias (alias? : Option TableAlias) : ScopesHanded v (ofAlias alias?) (ofAlias alias?) 0 := by
  cases alias? with
  | none => exact .nil
  | some a => exact .names [a.name]

end ScopesHanded

section Constructs

mutual

lemma scopesHanded_expr (v : View) :
    (e : Expr) → ScopesHanded v [.expr e] [.expr (scopeExpr v e).value] (scopeExpr v e).added
  | .name _ => .parts rfl rfl .nil
  | .value _ => .parts rfl rfl .nil
  | .binary l _ r => .parts rfl rfl ((scopesHanded_expr v l).append (scopesHanded_expr v r))
  | .nested e => .parts rfl rfl (scopesHanded_expr v e)
  | .call _ rest => .parts rfl rfl (scopesHanded_pieces v rest)
  | .form pieces => .parts rfl rfl (scopesHanded_pieces v pieces)

lemma scopesHanded_exprs (v : View) : (es : List Expr) →
    ScopesHanded v (es.map .expr) ((scopeExprs v es).value.map .expr) (scopeExprs v es).added
  | [] => .nil
  | e :: es => (scopesHanded_expr v e).append (scopesHanded_exprs v es)

lemma scopesHanded_option (v : View) : (e? : Option Expr) →
    ScopesHanded v (e?.toList.map .expr) ((scopeOption v e?).value.toList.map .expr)
      (scopeOption v e?).added
  | none => .nil
  | some e => scopesHanded_expr v e

lemma scopesHanded_piece (v : View) :
    (p : Piece) → ScopesHanded v [.piece p] [.piece (scopePiece v p).value] (scopePiece v p).added
  | .text _ => .parts rfl rfl .nil
  | .expr e => .parts rfl rfl (scopesHanded_expr v e)
  | .query q => .parts rfl rfl (.query q)
  | .table t => .parts rfl rfl (scopesHanded_inner v t)

lemma scopesHanded_pieces (v : View) : (ps : List Piece) →
    ScopesHanded v (ps.map .piece) ((scopePieces v ps).value.map .piece) (scopePieces v ps).added
  | [] => .nil
  | p :: ps => (scopesHanded_piece v p).append (scopesHanded_pieces v ps)

lemma scopesHanded_inner (v : View) :
    (t : TableFactor) → ScopesHanded v [.factor t] [.factor (scopeInner v t).value] (scopeInner v t).added
  | .base _ arguments _ hints =>
    .parts rfl rfl ((scopesHanded_pieces v arguments).append (scopesHanded_pieces v hints))
  | .derived lateral q alias? => .derived lateral q alias?
  | .nested inner alias? => .parts rfl rfl ((scopesHanded_innerTable v inner).append (.tableAlias alias?))
  | .other pieces alias? tail =>
    .parts rfl rfl (((scopesHanded_pieces v pieces).append (.tableAlias alias?)).append
      (scopesHanded_pieces v tail))

lemma scopesHanded_constraint (v : View) : (j : JoinConstraint) →
    ScopesHanded v [.constraint j] [.constraint (scopeConstraint v j).value] (scopeConstraint v j).added
  | .on e => .parts rfl rfl (scopesHanded_expr v e)
  | .shared _ => .parts rfl rfl .nil
  | .natural => .parts rfl rfl .nil
  | .none => .parts rfl rfl .nil

lemma scopesHanded_innerJoins (v : View) : (js : List Join) →
    ScopesHanded v (js.map .join) ((scopeInnerJoins v js).value.map .join) (scopeInnerJoins v js).added
  | [] => .nil
  | { isGlobal, op, relation, matching, constraint := j } :: js => by
    have hjoin : ScopesHanded v [.join ⟨isGlobal, op, relation, matching, j⟩]
        [.join ⟨isGlobal, op, (scopeInner v relation).value, (scopeOption v matching).value,
          (scopeConstraint v j).value⟩] _ :=
      .parts rfl rfl (((scopesHanded_inner v relation).append (scopesHanded_option v matching)).append
        (scopesHanded_constraint v j))
    refine (hjoin.append (scopesHanded_innerJoins v js)).of_eq ?_
    simp only [scopeInnerJoins, Counted.added_bind, Counted.added_pure]
    omega

lemma scopesHanded_innerTable (v : View) : (t : TableWithJoins) →
    ScopesHanded v [.table t] [.table (scopeInnerTable v t).value] (scopeInnerTable v t).added
  | { relation, joins } =>
    .parts rfl rfl ((scopesHanded_inner v relation).append (scopesHanded_innerJoins v joins))

end

lemma scopesHanded_keys (v : View) (ks : List OrderKey) :
    ScopesHanded v (ks.map .key) ((scopeKeys v ks).value.map .key) (scopeKeys v ks).added := by
  induction ks with
  | nil => exact .nil
  | cons k ks ih =>
    obtain ⟨e, direction, fill⟩ := k
    have hkey : ScopesHanded v [.key ⟨e, direction, fill⟩]
        [.key ⟨(scopeExpr v e).value, direction, (scopePieces v fill).value⟩] _ :=
      .parts rfl rfl ((scopesHanded_expr v e).append (scopesHanded_pieces v fill))
    refine (hkey.append ih).of_eq ?_
    simp only [scopeKeys, Counted.added_bind, Counted.added_pure]
    omega

lemma scopesHanded_items (v : View) (is : List SelectItem) :
    ScopesHanded v (is.map .item) ((scopeItems v is).value.map .item) (scopeItems v is).added := by
  induction is with
  | nil => exact .nil
  | cons i is ih =>
    cases i with
    | expr e alias? =>
      have hitem : ScopesHanded v [.item (.expr e alias?)] [.item (.expr (scopeExpr v e).value alias?)]
          (scopeExpr v e).added :=
        .parts rfl rfl ((scopesHanded_expr v e).append (.names alias?.toList))
      exact hitem.append ih
    | wildcard qualifier options =>
      have hitem : ScopesHanded v [.item (.wildcard qualifier options)]
          [.item (.wildcard qualifier (scopePieces v options).value)] (scopePieces v options).added :=
        .parts rfl rfl (scopesHanded_pieces v options)
      exact hitem.append ih

lemma scopesHanded_distinct (v : View) (d : Distinct) :
    ScopesHanded v [.distinct d] [.distinct (scopeDistinct v d).value] (scopeDistinct v d).added := by
  cases d with
  | none => exact .parts rfl rfl .nil
  | rows => exact .parts rfl rfl .nil
  | on keys => exact .parts rfl rfl (scopesHanded_exprs v keys)

end Constructs

section Passes

def visitTables (v : View) : List TableWithJoins → Counted (List TableWithJoins)
  | [] => return []
  | t :: ts => return (← scopeInnerTable v t) :: (← visitTables v ts)

/-- Scopes the outermost queries in a SELECT, those in the expressions of its tables included. -/
def visitSelect (v : View) (s : Select) : Counted Select := do
  let top ← scopePieces v s.top
  let distinct ← scopeDistinct v s.distinct
  let items ← scopeItems v s.items
  let tables ← visitTables v s.tables
  let views ← scopePieces v s.views
  let condition ← scopeOption v s.condition
  let groupBy ← scopeExprs v s.groupBy
  let sorting ← scopePieces v s.sorting
  let having ← scopeOption v s.having
  let tail ← scopePieces v s.tail
  return { s with top, distinct, items, tables, views, condition, groupBy, sorting, having, tail }

mutual

/-- Finds the predicates for a table whose expressions are scoped already, and scopes it where it is a
subquery. -/
def placeFactor (v : View) (placement : Placement) :
    TableFactor → Counted (TableFactor × List Expr)
  | .base name arguments alias? hints =>
    return (.base name arguments alias? hints, ← counted (v.predicates name alias?))
  | .derived lateral q alias? => return (.derived lateral (← scopeQuery v q) alias?, [])
  | .nested inner alias? => do
    let (inner, pending) ← placeTable v placement inner
    return (.nested inner alias?, pending)
  | .other pieces alias? tail => return (.other pieces alias? tail, [])

def placeJoins (v : View) (placement : Placement) : List Join → Counted (List Join × List Expr)
  | [] => return ([], [])
  | { isGlobal, op, relation, matching, constraint := j } :: js => do
    let isBase := isBase relation
    let (relation, predicates) ← placeFactor v placement relation
    let (j, pending) := if isBase then placed placement j predicates else (j, predicates)
    let (js, others) ← placeJoins v placement js
    return ({ isGlobal, op, relation, matching, constraint := j } :: js, pending ++ others)

def placeTable (v : View) (placement : Placement) :
    TableWithJoins → Counted (TableWithJoins × List Expr)
  | { relation, joins } => do
    let (relation, first) ← placeFactor v placement relation
    let (joins, others) ← placeJoins v placement joins
    return ({ relation, joins }, first ++ others)

end

def placeTables (v : View) (placement : Placement) :
    List TableWithJoins → Counted (List TableWithJoins × List Expr)
  | [] => return ([], [])
  | t :: ts => do
    let (t, first) ← placeTable v placement t
    let (ts, others) ← placeTables v placement ts
    return (t :: ts, first ++ others)

def placeSelect (v : View) (s : Select) : Counted Select := do
  let (tables, pending) ← placeTables v .joinCondition s.tables
  return { s with tables, condition := extended s.condition pending }

lemma counted_ext {α : Type} {m m' : Counted α} (hvalue : m.value = m'.value)
    (hadded : m.added = m'.added) : m = m' := by
  cases m
  cases m'
  exact congrArg₂ Counted.mk hvalue hadded

lemma isBase_scopeInner (v : View) (t : TableFactor) : isBase (scopeInner v t).value = isBase t := by
  cases t <;> rfl

mutual

lemma scopeFactor_eq_bind (v : View) (placement : Placement) :
    (t : TableFactor) → scopeFactor v placement t = scopeInner v t >>= placeFactor v placement
  | .base name arguments alias? hints => by
    refine counted_ext rfl ?_
    simp only [scopeFactor, scopeInner, placeFactor, Counted.added_bind, Counted.added_pure,
      Counted.value_bind, Counted.value_pure]
    omega
  | .derived lateral q alias? => by
    refine counted_ext rfl ?_
    simp only [scopeFactor, scopeInner, placeFactor, Counted.added_bind, Counted.added_pure,
      Counted.value_pure]
    omega
  | .nested inner alias? => by
    rw [scopeFactor, scopeTable_eq_bind v placement inner]
    refine counted_ext rfl ?_
    simp only [scopeInner, placeFactor, Counted.added_bind, Counted.added_pure,
      Counted.value_bind, Counted.value_pure]
    omega
  | .other pieces alias? tail => by
    refine counted_ext rfl ?_
    simp only [scopeFactor, scopeInner, placeFactor, Counted.added_bind, Counted.added_pure,
      Counted.value_bind, Counted.value_pure]
    omega

lemma scopeJoins_eq_bind (v : View) (placement : Placement) :
    (js : List Join) → scopeJoins v placement js = scopeInnerJoins v js >>= placeJoins v placement
  | [] => rfl
  | { isGlobal, op, relation, matching, constraint := j } :: js => by
    rw [scopeJoins, scopeFactor_eq_bind v placement relation, scopeJoins_eq_bind v placement js]
    refine counted_ext ?_ ?_ <;>
      simp only [scopeInnerJoins, placeJoins, Counted.value_bind, Counted.value_pure,
        Counted.added_bind, Counted.added_pure, isBase_scopeInner]
    omega

lemma scopeTable_eq_bind (v : View) (placement : Placement) :
    (t : TableWithJoins) → scopeTable v placement t = scopeInnerTable v t >>= placeTable v placement
  | { relation, joins } => by
    rw [scopeTable, scopeFactor_eq_bind v placement relation, scopeJoins_eq_bind v placement joins]
    refine counted_ext rfl ?_
    simp only [scopeInnerTable, placeTable, Counted.added_bind, Counted.added_pure,
      Counted.value_bind, Counted.value_pure]
    omega

end

lemma scopeTables_eq_bind (v : View) (placement : Placement) (ts : List TableWithJoins) :
    scopeTables v placement ts = visitTables v ts >>= placeTables v placement := by
  induction ts with
  | nil => rfl
  | cons t ts ih =>
    rw [scopeTables, scopeTable_eq_bind, ih]
    refine counted_ext rfl ?_
    simp only [visitTables, placeTables, Counted.added_bind, Counted.added_pure, Counted.value_bind,
      Counted.value_pure]
    omega

lemma scopeSelect_eq_bind (v : View) (s : Select) :
    scopeSelect v s = visitSelect v s >>= placeSelect v := by
  cases s
  rw [scopeSelect, scopeTables_eq_bind]
  refine counted_ext rfl ?_
  simp only [visitSelect, placeSelect, Counted.added_bind, Counted.added_pure, Counted.value_bind,
    Counted.value_pure]
  omega

lemma scopesHanded_visitTables (v : View) (ts : List TableWithJoins) :
    ScopesHanded v (ts.map .table) ((visitTables v ts).value.map .table) (visitTables v ts).added := by
  induction ts with
  | nil => exact .nil
  | cons t ts ih => exact (scopesHanded_innerTable v t).append ih

lemma scopesHanded_visitSelect (v : View) (s : Select) :
    ScopesHanded v [.select s] [.select (visitSelect v s).value] (visitSelect v s).added := by
  have hitems := (scopesHanded_distinct v s.distinct).append (scopesHanded_items v s.items)
  have hparts := (scopesHanded_pieces v s.top).append hitems
    |>.append (scopesHanded_visitTables v s.tables)
    |>.append (scopesHanded_pieces v s.views)
    |>.append (scopesHanded_option v s.condition)
    |>.append (scopesHanded_exprs v s.groupBy)
    |>.append (scopesHanded_pieces v s.sorting)
    |>.append (scopesHanded_option v s.having)
    |>.append (scopesHanded_pieces v s.tail)
  refine ScopesHanded.parts rfl rfl (hparts.of_eq ?_)
  simp only [visitSelect, Counted.added_bind, Counted.added_pure]
  omega

end Passes

/-- What the visitor is sent through: assignments, a condition or limit, a table, what follows
`ORDER BY`, or a SELECT. -/
inductive Visited where
  | assignments (pieces : List Piece)
  | option (e? : Option Expr)
  | table (t : TableWithJoins)
  | order (keys : List OrderKey) (interpolate : List Piece)
  | select (s : Select)

namespace Visited

def constructs : Visited → List Construct
  | assignments pieces => pieces.map .piece
  | option e? => e?.toList.map .expr
  | table t => [.table t]
  | order keys interpolate => keys.map .key ++ interpolate.map .piece
  | select s => [.select s]

/-- How scoping goes through it, before it places the predicates of tables. -/
def scope (v : View) : Visited → Counted Visited
  | assignments pieces => return assignments (← scopePieces v pieces)
  | option e? => return option (← scopeOption v e?)
  | table t => return table (← scopeInnerTable v t)
  | order keys interpolate => return order (← scopeKeys v keys) (← scopePieces v interpolate)
  | select s => return select (← visitSelect v s)

end Visited

/-- Through whatever constructs the visitor is sent, and in whatever order it visits the parts of each:
its count never has to go below zero, it is zero in the end, and the outermost queries are handed over,
each once and in the order of the visit. Scoping puts scoped queries in the places of just these. What
it does to a table or a SELECT is such a visit, followed by the predicates of its own tables. -/
theorem visit_hands_over_outermost (v : View) :
    (∀ (o : Order) (cs : List Construct), ∃ enough, ∀ more handed,
      cs.foldlM (Visit.walk o (fun q => (scopeQuery v q).value) (enough + more)) ⟨0, handed⟩ =
        some ⟨0, handed ++ cs.flatMap (outermost o)⟩) ∧
    (∀ n : Visited, ScopesHanded v n.constructs (n.scope v).value.constructs (n.scope v).added) ∧
    (∀ placement t, scopeTable v placement t = scopeInnerTable v t >>= placeTable v placement) ∧
    ∀ s, scopeSelect v s = visitSelect v s >>= placeSelect v := by
  refine ⟨fun o cs => ?_, fun n => ?_, fun placement t => scopeTable_eq_bind v placement t, scopeSelect_eq_bind v⟩
  · have hands : Visit.HandsOver o (fun q => (scopeQuery v q).value) cs := Visit.handsOver cs
    obtain ⟨enough, h⟩ := hands
    exact ⟨enough, fun more handed => h (enough + more) (Nat.le_add_right _ _) handed⟩
  · cases n with
    | assignments pieces => exact scopesHanded_pieces v pieces
    | option e? => exact scopesHanded_option v e?
    | table t => exact scopesHanded_innerTable v t
    | order keys interpolate =>
      exact (scopesHanded_keys v keys).append (scopesHanded_pieces v interpolate)
    | select s => exact scopesHanded_visitSelect v s

end RowFence.Scope
