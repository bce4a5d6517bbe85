import RowFence.Proofs.Scope.Insertions

/-! What scoping puts into a statement adds no slot and no table to it: each slot of a scoped
statement is one of the statement itself, for the same tables. -/

namespace RowFence.Scope

open Sql
open Meaning (Occurrence)

section Scoped

mutual

/-- The slots of a construct once it is scoped. -/
def SlotTree.scoped (v : View) : SlotTree → SlotTree
  | .slot condition places =>
    .slot (extended (scopeOption v condition).value (v.predicatesFor places)) places
  | .query ctes clauses => .query (scopedCtes v ctes) (scopedSlots (v.beyond ctes) clauses)

def scopedSlots (v : View) : List SlotTree → List SlotTree
  | [] => []
  | s :: ss => s.scoped v :: scopedSlots v ss

def scopedCtes (v : View) : List CteSlots → List CteSlots
  | [] => []
  | { given, query } :: cs => ⟨given, query.scoped v⟩ :: scopedCtes (v.withHidden given) cs

end

lemma scopedSlots_append (v : View) (first others : List SlotTree) :
    scopedSlots v (first ++ others) = scopedSlots v first ++ scopedSlots v others := by
  induction first with
  | nil => rfl
  | cons s ss ih => rw [List.cons_append, scopedSlots, ih, scopedSlots, List.cons_append]

lemma beyond_scopedCtes (v w : View) (cs : List CteSlots) :
    v.beyond (scopedCtes w cs) = v.beyond cs := by
  induction cs generalizing v w with
  | nil => rfl
  | cons c cs ih =>
    obtain ⟨given, query⟩ := c
    exact ih (v.withHidden given) (w.withHidden given)

mutual

lemma insertions_scoped (v w : View) : (s : SlotTree) →
    (s.scoped w).insertions v = s.insertions v
  | .slot condition places => by rw [SlotTree.scoped, SlotTree.insertions, SlotTree.insertions]
  | .query ctes clauses => by
    rw [SlotTree.scoped, SlotTree.insertions, SlotTree.insertions, beyond_scopedCtes,
      cteInsertions_scopedCtes v w ctes, insertionsOf_scopedSlots]

lemma insertionsOf_scopedSlots (v w : View) : (ss : List SlotTree) →
    insertionsOf v (scopedSlots w ss) = insertionsOf v ss
  | [] => by rw [scopedSlots]
  | s :: ss => by
    rw [scopedSlots, insertionsOf, insertionsOf, insertions_scoped v w s,
      insertionsOf_scopedSlots v w ss]

lemma cteInsertions_scopedCtes (v w : View) : (cs : List CteSlots) →
    cteInsertions v (scopedCtes w cs) = cteInsertions v cs
  | [] => by rw [scopedCtes]
  | { given, query } :: cs => by
    rw [scopedCtes, cteInsertions, cteInsertions, insertions_scoped v w query,
      cteInsertions_scopedCtes _ _ cs]

end

end Scoped

section Predicates

lemma exprSlots_grouped (e : Expr) : exprSlots (grouped e) = exprSlots e := by
  unfold grouped
  split
  · rfl
  · split
    · rw [exprSlots]
    · rfl

lemma exprSlots_predicateOf (column : String) (tenant : TenantId) (place : Occurrence) :
    exprSlots (predicateOf column tenant place) = [] := by
  rcases place with ⟨name, _ | a⟩ <;> rfl

lemma exprSlots_of_mem_predicatesFor {v : View} {places : List Occurrence} {p : Expr}
    (h : p ∈ v.predicatesFor places) : exprSlots p = [] := by
  obtain ⟨place, -, rfl⟩ := List.mem_map.mp h
  exact exprSlots_predicateOf _ _ place

lemma exprSlots_foldl_conjoin {preds : List Expr} (h : ∀ p ∈ preds, exprSlots p = []) (e : Expr) :
    exprSlots (preds.foldl conjoin e) = exprSlots e := by
  induction preds generalizing e with
  | nil => rfl
  | cons p ps ih =>
    obtain ⟨hp, hps⟩ := List.forall_mem_cons.mp h
    rw [List.foldl_cons, ih hps, conjoin, exprSlots, exprSlots_grouped, hp, List.append_nil]

lemma optionSlots_extended {preds : List Expr} (h : ∀ p ∈ preds, exprSlots p = [])
    (e? : Option Expr) : optionSlots (extended e? preds) = optionSlots e? := by
  cases e? with
  | some e => rw [extended_some, optionSlots, exprSlots_foldl_conjoin h, optionSlots]
  | none =>
    cases preds with
    | nil => rfl
    | cons p ps =>
      obtain ⟨hp, hps⟩ := List.forall_mem_cons.mp h
      rw [extended, extended_some]
      exact (exprSlots_foldl_conjoin hps p).trans hp

end Predicates

section Constructs

lemma onTables_scopeFactor (v : View) (placement : Placement) (t : TableFactor) :
    onTables (some placement) (scopeFactor v placement t).value.1 =
      onTables (some placement) t := by
  cases placement <;> cases t <;> rfl

mutual

lemma exprSlots_scopeExpr (v : View) : (e : Expr) →
    exprSlots (scopeExpr v e).value = scopedSlots v (exprSlots e)
  | .name _ => rfl
  | .value _ => rfl
  | .binary l op r => by
    simp only [scopeExpr, Counted.value_bind, Counted.value_pure, exprSlots, scopedSlots_append,
      exprSlots_scopeExpr v l, exprSlots_scopeExpr v r]
  | .nested e => exprSlots_scopeExpr v e
  | .call f rest => piecesSlots_scopePieces v rest
  | .form pieces => piecesSlots_scopePieces v pieces

lemma exprsSlots_scopeExprs (v : View) : (es : List Expr) →
    exprsSlots (scopeExprs v es).value = scopedSlots v (exprsSlots es)
  | [] => rfl
  | e :: es => by
    simp only [scopeExprs, Counted.value_bind, Counted.value_pure, exprsSlots, scopedSlots_append,
      exprSlots_scopeExpr v e, exprsSlots_scopeExprs v es]

lemma optionSlots_scopeOption (v : View) : (e? : Option Expr) →
    optionSlots (scopeOption v e?).value = scopedSlots v (optionSlots e?)
  | none => rfl
  | some e => exprSlots_scopeExpr v e

lemma pieceSlots_scopePiece (v : View) : (p : Piece) →
    pieceSlots (scopePiece v p).value = scopedSlots v (pieceSlots p)
  | .text _ => rfl
  | .expr e => exprSlots_scopeExpr v e
  | .query q => congrArg (List.cons · []) (querySlots_scopeQuery v q)
  | .table t => factorSlots_scopeInner v t

lemma piecesSlots_scopePieces (v : View) : (ps : List Piece) →
    piecesSlots (scopePieces v ps).value = scopedSlots v (piecesSlots ps)
  | [] => rfl
  | p :: ps => by
    simp only [scopePieces, Counted.value_bind, Counted.value_pure, piecesSlots, scopedSlots_append,
      pieceSlots_scopePiece v p, piecesSlots_scopePieces v ps]

lemma factorSlots_scopeInner (v : View) : (t : TableFactor) →
    factorSlots none (scopeInner v t).value = scopedSlots v (factorSlots none t)
  | .base name arguments alias? hints => by
    simp only [scopeInner, Counted.value_bind, Counted.value_pure, factorSlots, scopedSlots_append,
      piecesSlots_scopePieces v arguments, piecesSlots_scopePieces v hints]
  | .derived .. => rfl
  | .nested inner _ => tableSlots_scopeInnerTable v inner
  | .other pieces alias? tail => by
    simp only [scopeInner, Counted.value_bind, Counted.value_pure, factorSlots, scopedSlots_append,
      piecesSlots_scopePieces v pieces, piecesSlots_scopePieces v tail]

lemma constraintSlots_scopeConstraint (v : View) (places : List Occurrence) :
    (j : JoinConstraint) →
      constraintSlots places (extendedOn (v.predicatesFor places) (scopeConstraint v j).value) =
        scopedSlots v (constraintSlots places j)
  | .on e => by
    have hpreds (p : Expr) : p ∈ v.predicatesFor places → exprSlots p = [] :=
      exprSlots_of_mem_predicatesFor
    simp only [scopeConstraint, Counted.value_bind, Counted.value_pure, extendedOn, constraintSlots,
      exprSlots_foldl_conjoin hpreds, exprSlots_scopeExpr v e, scopedSlots_append]
    rw [scopedSlots, SlotTree.scoped, scopeOption, Counted.value_bind, Counted.value_pure,
      extended_some, scopedSlots]
  | .shared _ => rfl
  | .natural => rfl
  | .none => rfl

lemma joinsSlots_scopeInnerJoins (v : View) : (js : List Join) →
    joinsSlots none (scopeInnerJoins v js).value = scopedSlots v (joinsSlots none js)
  | [] => rfl
  | { isGlobal, op, relation, matching, constraint } :: js => by
    have hconstraint := constraintSlots_scopeConstraint v [] constraint
    rw [View.predicatesFor, List.filter_nil, List.map_nil, extendedOn_nil] at hconstraint
    simp only [scopeInnerJoins, Counted.value_bind, Counted.value_pure, joinsSlots, onTables,
      scopedSlots_append, factorSlots_scopeInner v relation, optionSlots_scopeOption v matching,
      hconstraint, joinsSlots_scopeInnerJoins v js]

lemma tableSlots_scopeInnerTable (v : View) : (t : TableWithJoins) →
    tableSlots none (scopeInnerTable v t).value = scopedSlots v (tableSlots none t)
  | { relation, joins } => by
    simp only [scopeInnerTable, Counted.value_bind, Counted.value_pure, tableSlots,
      scopedSlots_append, factorSlots_scopeInner v relation, joinsSlots_scopeInnerJoins v joins]

lemma factorSlots_scopeFactor (v : View) (placement : Placement) : (t : TableFactor) →
    factorSlots (some placement) (scopeFactor v placement t).value.1 =
      scopedSlots v (factorSlots (some placement) t)
  | .base name arguments alias? hints => by
    simp only [scopeFactor, Counted.value_bind, Counted.value_pure, factorSlots, scopedSlots_append,
      piecesSlots_scopePieces v arguments, piecesSlots_scopePieces v hints]
  | .derived _ q _ => congrArg (List.cons · []) (querySlots_scopeQuery v q)
  | .nested inner _ => tableSlots_scopeTable v placement inner
  | .other pieces alias? tail => by
    simp only [scopeFactor, Counted.value_bind, Counted.value_pure, factorSlots, scopedSlots_append,
      piecesSlots_scopePieces v pieces, piecesSlots_scopePieces v tail]

lemma joinsSlots_scopeJoins (v : View) (placement : Placement) : (js : List Join) →
    joinsSlots (some placement) (scopeJoins v placement js).value.1 =
      scopedSlots v (joinsSlots (some placement) js)
  | [] => rfl
  | { isGlobal, op, relation, matching, constraint } :: js => by
    simp only [scopeJoins, Counted.value_bind, Counted.value_pure, joinsSlots, onTables_scopeFactor,
      (placed_scopeFactor v placement relation _).1, scopedSlots_append,
      factorSlots_scopeFactor v placement relation, optionSlots_scopeOption v matching,
      constraintSlots_scopeConstraint v _ constraint, joinsSlots_scopeJoins v placement js]

lemma tableSlots_scopeTable (v : View) (placement : Placement) : (t : TableWithJoins) →
    tableSlots (some placement) (scopeTable v placement t).value.1 =
      scopedSlots v (tableSlots (some placement) t)
  | { relation, joins } => by
    simp only [scopeTable, Counted.value_bind, Counted.value_pure, tableSlots, scopedSlots_append,
      factorSlots_scopeFactor v placement relation, joinsSlots_scopeJoins v placement joins]

lemma tablesSlots_scopeTables (v : View) (placement : Placement) : (ts : List TableWithJoins) →
    tablesSlots placement (scopeTables v placement ts).value.1 =
      scopedSlots v (tablesSlots placement ts)
  | [] => rfl
  | t :: ts => by
    simp only [scopeTables, Counted.value_bind, Counted.value_pure, tablesSlots, scopedSlots_append,
      tableSlots_scopeTable v placement t, tablesSlots_scopeTables v placement ts]

lemma ctesSlots_scopeCtes (v : View) : (cs : List Cte) →
    ctesSlots (scopeCtes v cs).value.1 = scopedCtes v (ctesSlots cs)
  | [] => rfl
  | { given, query, source?, materialized } :: cs => by
    simp only [scopeCtes, Counted.value_bind, Counted.value_pure, ctesSlots, scopedCtes,
      querySlots_scopeQuery v query, ctesSlots_scopeCtes (v.withHidden given.name) cs]

lemma keysSlots_scopeKeys (v : View) : (ks : List OrderKey) →
    keysSlots (scopeKeys v ks).value = scopedSlots v (keysSlots ks)
  | [] => rfl
  | { key, direction, fill } :: ks => by
    simp only [scopeKeys, Counted.value_bind, Counted.value_pure, keysSlots, scopedSlots_append,
      exprSlots_scopeExpr v key, piecesSlots_scopePieces v fill, keysSlots_scopeKeys v ks]

lemma querySlots_scopeQuery (v : View) : (q : Query) →
    querySlots (scopeQuery v q).value = (querySlots q).scoped v
  | { recursive, ctes, body, orderBy, interpolate, limit, tail } => by
    simp only [scopeQuery, Counted.value_bind, Counted.value_pure, querySlots, SlotTree.scoped,
      (after_scopeCtes v ctes).2, beyond_ctesSlots, scopedSlots_append, ctesSlots_scopeCtes v ctes,
      bodySlots_scopeBody _ body, keysSlots_scopeKeys _ orderBy,
      piecesSlots_scopePieces _ interpolate, optionSlots_scopeOption _ limit]

lemma bodySlots_scopeBody (v : View) : (b : Body) →
    bodySlots (scopeBody v b).value = scopedSlots v (bodySlots b)
  | .select s => selectSlots_scopeSelect v s
  | .setOp l op quantifier r => by
    simp only [scopeBody, Counted.value_bind, Counted.value_pure, bodySlots, scopedSlots_append,
      bodySlots_scopeBody v l, bodySlots_scopeBody v r]
  | .query q => congrArg (List.cons · []) (querySlots_scopeQuery v q)
  | .rows _ => rfl
  | .table _ => rfl
  | .change _ => rfl

lemma itemsSlots_scopeItems (v : View) : (is : List SelectItem) →
    itemsSlots (scopeItems v is).value = scopedSlots v (itemsSlots is)
  | [] => rfl
  | .expr e alias? :: is => by
    simp only [scopeItems, Counted.value_bind, Counted.value_pure, itemsSlots, scopedSlots_append,
      exprSlots_scopeExpr v e, itemsSlots_scopeItems v is]
  | .wildcard qualifier options :: is => by
    simp only [scopeItems, Counted.value_bind, Counted.value_pure, itemsSlots, scopedSlots_append,
      piecesSlots_scopePieces v options, itemsSlots_scopeItems v is]

lemma distinctSlots_scopeDistinct (v : View) : (d : Distinct) →
    distinctSlots (scopeDistinct v d).value = scopedSlots v (distinctSlots d)
  | .none => rfl
  | .rows => rfl
  | .on keys => exprsSlots_scopeExprs v keys

lemma selectSlots_scopeSelect (v : View) : (s : Select) →
    selectSlots (scopeSelect v s).value = scopedSlots v (selectSlots s)
  | { top, topFirst, distinct, items, into, tables, views, condition, groupAll, groupBy,
      groupModifiers, sorting, having, tail } => by
    have hpreds (p : Expr) : p ∈ v.predicatesFor ((Meaning.tablesLayout tables).remaining
        .joinCondition) → exprSlots p = [] := exprSlots_of_mem_predicatesFor
    simp only [scopeSelect, Counted.value_bind, Counted.value_pure, selectSlots, scopedSlots_append,
      piecesSlots_scopePieces v top, distinctSlots_scopeDistinct v distinct,
      itemsSlots_scopeItems v items, piecesSlots_scopePieces v views, optionSlots_extended hpreds,
      optionSlots_scopeOption v condition, exprsSlots_scopeExprs v groupBy,
      piecesSlots_scopePieces v sorting, optionSlots_scopeOption v having,
      piecesSlots_scopePieces v tail, tablesSlots_scopeTables v .joinCondition tables,
      Meaning.layout_scopeTables, predicatesFor_scopeTables, scopedSlots, SlotTree.scoped]

end

lemma tableOptionSlots_scopeTableOption (v : View) (placement : Placement)
    (t? : Option TableWithJoins) :
    tableOptionSlots placement (scopeTableOption v placement t?).value.1 =
      scopedSlots v (tableOptionSlots placement t?) := by
  cases t? with
  | none => rfl
  | some t => exact tableSlots_scopeTable v placement t

lemma tableOptionRemaining_scopeTableOption (v : View) (placement : Placement)
    (t? : Option TableWithJoins) :
    tableOptionRemaining placement (scopeTableOption v placement t?).value.1 =
      tableOptionRemaining placement t? := by
  cases t? with
  | none => rfl
  | some t => exact congrArg (Meaning.Layout.remaining placement) (Meaning.layout_scopeTable v _ t)

lemma statementSlots_scopeUpdate (v : View) (u : Update) :
    statementSlots (.update (scopeUpdate v u).value) = scopedSlots v (statementSlots (.update u)) := by
  obtain ⟨target, assignments, source?, condition, returning⟩ := u
  have hpreds (p : Expr) : p ∈ v.predicatesFor ((Meaning.tableLayout target).remaining .statement
      ++ tableOptionRemaining .statement source?) → exprSlots p = [] :=
    exprSlots_of_mem_predicatesFor
  simp only [scopeUpdate, Counted.value_bind, Counted.value_pure, statementSlots,
    predicatesFor_scopeTable, predicatesFor_scopeTableOption, ← predicatesFor_append,
    optionSlots_extended hpreds, scopedSlots_append, piecesSlots_scopePieces,
    optionSlots_scopeOption, tableSlots_scopeTable, tableOptionSlots_scopeTableOption,
    Meaning.layout_scopeTable, tableOptionRemaining_scopeTableOption, scopedSlots, SlotTree.scoped]

lemma statementSlots_scopeDelete (v : View) (d : Delete) :
    statementSlots (.delete (scopeDelete v d).value) = scopedSlots v (statementSlots (.delete d)) := by
  obtain ⟨named, fromKeyword, targets, sources, condition, tail⟩ := d
  have hpreds (p : Expr) : p ∈ v.predicatesFor ((Meaning.tablesLayout targets).remaining .statement
      ++ (Meaning.tablesLayout sources).remaining .statement) → exprSlots p = [] :=
    exprSlots_of_mem_predicatesFor
  simp only [scopeDelete, Counted.value_bind, Counted.value_pure, statementSlots,
    predicatesFor_scopeTables, ← predicatesFor_append, optionSlots_extended hpreds,
    scopedSlots_append, optionSlots_scopeOption, tablesSlots_scopeTables,
    Meaning.layout_scopeTables, scopedSlots, SlotTree.scoped]

lemma statementSlots_scopeStatement (v : View) (s : Statement) :
    statementSlots (scopeStatement v s).value = scopedSlots v (statementSlots s) := by
  cases s with
  | query q => exact congrArg (List.cons · []) (querySlots_scopeQuery v q)
  | update u => exact statementSlots_scopeUpdate v u
  | delete d => exact statementSlots_scopeDelete v d
  | other pieces => rfl

lemma statementsSlots_scopeStatements (v : View) (ss : List Statement) :
    statementsSlots (scopeStatements v ss).value = scopedSlots v (statementsSlots ss) := by
  rw [value_scopeStatements]
  induction ss with
  | nil => rfl
  | cons s ss ih =>
    rw [List.map_cons, statementsSlots, statementSlots_scopeStatement, ih, statementsSlots,
      scopedSlots_append]

end Constructs

end RowFence.Scope
