import RowFence.Proofs.Filter.Calls
import RowFence.Proofs.Scope.Exemption
import RowFence.Proofs.Scope.FormScoping
import RowFence.Proofs.Scope.Placement

/-! Functions whose result is taken for a table. The parser keeps some of them apart from the tables
that are named, and those get no predicate. A name with a list of arguments is kept with the named
tables, and is scoped as one. The queries in the arguments are scoped in any case. -/

namespace RowFence.Scope

open Sql

/-- The tables that rows are taken from or changed in, and the condition on them. -/
structure FromClause where
  view : View
  placement : Placement
  tables : List TableWithJoins
  condition : Option Expr

namespace FromClause

def items (f : FromClause) : List Item := f.tables.flatMap tableItems

def outcome (f : FromClause) : FromClause where
  view := f.view
  placement := f.placement
  tables := f.tables.map fun t => (scopeTable f.view f.placement t).value.1
  condition := extended (scopeOption f.view f.condition).value
    (f.tables.flatMap fun t => (scopeTable f.view f.placement t).value.2)

lemma items_outcome (f : FromClause) :
    f.outcome.items = f.items.map (Item.outcome f.view f.placement) := by
  rw [items, outcome, List.flatMap_map, items, List.map_flatMap]
  exact List.flatMap_congr fun t _ => (tableItems_scopeTable f.view f.placement t).1

lemma conjuncts_outcome (f : FromClause) :
    conjunctsOf f.outcome.condition = conjunctsOf (scopeOption f.view f.condition).value ++
      f.items.flatMap (Item.pending f.view f.placement) := by
  rw [outcome, conjunctsOf_extended_pending, items, List.flatMap_assoc]
  congr 1
  exact List.flatMap_congr fun t _ => (tableItems_scopeTable f.view f.placement t).2

end FromClause

/-- The FROM clauses of a query. Queries in parentheses have seats of their own. -/
def bodyClauses (v : View) : Body → List FromClause
  | .select s => [⟨v, .joinCondition, s.tables, s.condition⟩]
  | .setOp l _ _ r => bodyClauses v l ++ bodyClauses v r
  | .query _ => []
  | .rows _ => []
  | .table _ => []
  | .change _ => []

def Seat.clauses (s : Seat) : List FromClause :=
  if s.reached then bodyClauses (s.view.after s.query.ctes) s.query.body else []

def changeClauses (v : View) : Statement → List FromClause
  | .query _ => []
  | .update u => [⟨v, .statement, u.target :: u.source?.toList, u.condition⟩]
  | .delete d => [⟨v, .statement, d.targets ++ d.sources, d.condition⟩]
  | .other _ => []

/-- The FROM clauses of statements at every depth that scoping reaches. -/
def fromClauses (v : View) (statements : List Statement) : List FromClause :=
  statements.flatMap (changeClauses v) ++ (seats v statements).flatMap Seat.clauses

section Clauses

lemma bodyClauses_scopeBody (v : View) (b : Body) :
    bodyClauses v (scopeBody v b).value = (bodyClauses v b).map FromClause.outcome := by
  induction b using bodyClauses.induct with
  | case1 s =>
    cases s
    simp only [scopeBody, scopeSelect, Counted.value_bind, Counted.value_pure, bodyClauses,
      scopeTables_eq, FromClause.outcome, List.map_cons, List.map_nil]
  | case2 l op quantifier r ihl ihr =>
    simp only [scopeBody, Counted.value_bind, Counted.value_pure, bodyClauses, List.map_append, ihl,
      ihr]
  | case3 q => rfl
  | case4 rows => rfl
  | case5 name => rfl
  | case6 change => rfl

lemma clauses_outcome (s : Seat) : s.outcome.clauses = s.clauses.map FromClause.outcome := by
  obtain ⟨query, view, reached⟩ := s
  cases reached with
  | false => rfl
  | true =>
    obtain ⟨recursive, ctes, body, orderBy, interpolate, limit, tail⟩ := query
    obtain ⟨hafter, hview⟩ := after_scopeCtes view ctes
    simp only [Seat.outcome_reached, Seat.clauses, scopeQuery, Counted.value_bind, Counted.value_pure,
      if_true, hafter, hview, bodyClauses_scopeBody]

lemma changeClauses_scopeStatement (v : View) (s : Statement) :
    changeClauses v (scopeStatement v s).value = (changeClauses v s).map FromClause.outcome := by
  cases s with
  | query q => rfl
  | update u =>
    simp only [scopeStatement, scopeUpdate, Counted.value_bind, Counted.value_pure, changeClauses,
      FromClause.outcome, List.map_cons, List.map_nil, scopeTableOption_eq, List.flatMap_cons]
    cases u.source? <;> rfl
  | delete d =>
    simp only [scopeStatement, scopeDelete, Counted.value_bind, Counted.value_pure, changeClauses,
      FromClause.outcome, List.map_cons, List.map_nil, scopeTables_eq, List.map_append,
      List.flatMap_append]
  | other pieces => rfl

lemma fromClauses_scopeStatements (v : View) (ss : List Statement) :
    fromClauses v (scopeStatements v ss).value = (fromClauses v ss).map FromClause.outcome := by
  rw [fromClauses, seats_scopeStatements, value_scopeStatements, List.flatMap_map, List.flatMap_map,
    fromClauses, List.map_append, List.map_flatMap, List.map_flatMap]
  congr 1
  · exact List.flatMap_congr fun s _ => changeClauses_scopeStatement v s
  · exact List.flatMap_congr fun s _ => clauses_outcome s

end Clauses

/-- A name with a list of arguments, where a table stands, or a function that is marked by a
keyword. -/
def isTableFunction : TableFactor → Bool
  | .base name arguments alias? hints =>
    (Filter.tableCalled? (.factor (.base name arguments alias? hints))).isSome
  | .other (.text s :: _) _ _ => ["LATERAL ", "TABLE(", "UNNEST("].contains s
  | _ => false

/-- A piece, or the arguments in it if it is a function. -/
def argumentsIn : Piece → List Piece
  | .text s => [.text s]
  | .expr e => [.expr e]
  | .query q => [.query q]
  | .table (.base _ arguments _ _) => arguments
  | .table t => [.table t]

def tableArguments : TableFactor → List Piece
  | .base _ arguments _ _ => arguments
  | .derived .. => []
  | .nested .. => []
  | .other pieces _ _ => pieces.flatMap argumentsIn

section Functions

lemma argumentsIn_scopePiece (v : View) (p : Piece) :
    argumentsIn (scopePiece v p).value = (scopePieces v (argumentsIn p)).value := by
  cases p with
  | text s => rfl
  | expr e => rfl
  | query q => rfl
  | table t => cases t <;> rfl

lemma tableArguments_scopeFactor (v : View) (placement : Placement) (t : TableFactor) :
    tableArguments (scopeFactor v placement t).value.1 = (scopePieces v (tableArguments t)).value := by
  cases t with
  | base name arguments alias? hints => rfl
  | derived lateral q alias? => rfl
  | nested inner alias? => rfl
  | other pieces alias? tail =>
    simp only [scopeFactor, Counted.value_bind, Counted.value_pure, tableArguments]
    induction pieces with
    | nil => rfl
    | cons p ps ih =>
      simp only [scopePieces, Counted.value_bind, Counted.value_pure, List.flatMap_cons,
        argumentsIn_scopePiece, ih, value_scopePieces_append]

lemma predicates_eq_nil_iff_tableCalled (v : View) (i : Item)
    (h : isTableFunction i.factor = true) :
    i.predicates v = [] ↔
      ∀ name, Filter.tableCalled? (.factor i.factor) = some name → v.exempts name = true := by
  obtain ⟨factor, on?⟩ := i
  cases factor with
  | base name arguments alias? hints =>
    obtain ⟨called, hcalled⟩ := Option.isSome_iff_exists.mp h
    have hname : called = name := by
      rw [Filter.tableCalled?] at hcalled
      split at hcalled
      · exact (Option.some.inj hcalled).symm
      · cases hcalled
    rw [Item.predicates, ownPredicates_base, predicates_eq_nil_iff, hcalled, hname]
    exact ⟨fun hexempt other hother => Option.some.inj hother ▸ hexempt, fun hexempt => hexempt name rfl⟩
  | derived lateral q alias? => cases h
  | nested inner alias? => cases h
  | other pieces alias? tail => exact iff_of_true rfl fun name hname => absurd hname.symm (Option.some_ne_none name)

lemma placed_append_pending (v : View) (placement : Placement) (i : Item) :
    i.placed v placement ++ i.pending v placement = i.predicates v := by
  obtain ⟨factor, on?⟩ := i
  cases placement <;> cases on? <;> simp [Item.placed, Item.pending]

/-- In the FROM clauses of scoped statements, at every depth, the conditions are extended by the
predicates of the tables in the clause. A table function needs one just in case it is written as a
name with arguments, and that name is not exempt. The queries in its arguments are scoped. -/
theorem tableFunction_spared_iff (v : View) (ss : List Statement) :
    fromClauses v (scopeStatements v ss).value = (fromClauses v ss).map FromClause.outcome ∧
      ∀ f ∈ fromClauses v ss,
        f.outcome.items = f.items.map (Item.outcome f.view f.placement) ∧
        conjunctsOf f.outcome.condition = conjunctsOf (scopeOption f.view f.condition).value ++
          f.items.flatMap (Item.pending f.view f.placement) ∧
        ∀ i ∈ f.items, isTableFunction i.factor = true →
          (i.placed f.view f.placement ++ i.pending f.view f.placement = [] ↔
            ∀ name, Filter.tableCalled? (.factor i.factor) = some name →
              f.view.exempts name = true) ∧
          pieceSeats f.view (tableArguments (i.outcome f.view f.placement).factor) =
            (pieceSeats f.view (tableArguments i.factor)).map Seat.outcome := by
  refine ⟨fromClauses_scopeStatements v ss, fun f _ => ⟨f.items_outcome, f.conjuncts_outcome, ?_⟩⟩
  intro i _ hfunction
  constructor
  · rw [placed_append_pending]
    exact predicates_eq_nil_iff_tableCalled f.view i hfunction
  · rw [Item.outcome, tableArguments_scopeFactor, pieceSeats_scoped]

section Purge

def itemCounts : TableFactor :=
  .other [.text "LATERAL ", .table (.base [⟨"f", none⟩]
    [.text "(", .query (countOf "items"), .text ")"] none [])] none []

/-- Orders are deleted where a function of the items and the first numbers say so. -/
def purge : Delete where
  named := []
  fromKeyword := true
  targets := [⟨.base [⟨"orders", none⟩] [] none [], []⟩]
  sources := [⟨itemCounts, []⟩, ⟨.base [⟨"generate_series", none⟩] [.text "(1, 3)"] none [], []⟩]
  condition := none
  tail := []

theorem tableFunction_spared_purge :
    let v : View := ⟨.usualEnabled, .one, []⟩
    Item.pending v .statement ⟨itemCounts, none⟩ = [] ∧
      Item.pending v .statement
        ⟨.base [⟨"generate_series", none⟩] [.text "(1, 3)"] none [], none⟩ ≠ [] ∧
      (⟨countOf "items", v, true⟩ : Seat).outcome ∈ pieceSeats v (tableArguments
        (scopeFactor v .statement itemCounts).value.1) := by
  intro v
  let f : FromClause := ⟨v, .statement, purge.targets ++ purge.sources, none⟩
  have hclause : f ∈ fromClauses v [.delete purge] := List.mem_append_left _ (List.mem_singleton_self f)
  obtain ⟨-, -, hspared⟩ := (tableFunction_spared_iff v [.delete purge]).2 f hclause
  have hcounts := hspared ⟨itemCounts, none⟩ (by simp [f, FromClause.items, purge, tableItems])
    (by decide)
  have hseries := hspared ⟨.base [⟨"generate_series", none⟩] [.text "(1, 3)"] none [], none⟩
    (by simp [f, FromClause.items, purge, tableItems]) (by decide)
  refine ⟨hcounts.1.mpr nofun, fun hnone => ?_, ?_⟩
  · exact absurd (hseries.1.mp hnone [⟨"generate_series", none⟩] (by decide)) (by decide)
  · rw [Item.outcome] at hcounts
    rw [hcounts.2]
    exact List.mem_map_of_mem (List.mem_cons_self)

/-- The only table of the statement is a function, and it gets a predicate. -/
theorem outcome_generateSeries :
    (Policy.usualEnabled.outcome (some .one) "SELECT * FROM generate_series(1, 3)").toOption.map
      (fun o => o.sql) =
        some "SELECT * FROM generate_series(1, 3) WHERE generate_series.tenant_id = 1" := by
  decide +kernel

end Purge

end Functions

end RowFence.Scope
