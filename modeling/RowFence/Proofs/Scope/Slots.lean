import RowFence.Proofs.Meaning.Pending

/-! The conditions that scoping may extend: the WHERE of queries and row changes, and the ON of joins.
Each is a slot, with the tables whose predicates go into it if they need one. -/

namespace RowFence.Meaning

open Scope

/-- The named tables whose predicates, if they need one, are left to the condition of the
statement. -/
def Layout.remaining (placement : Placement) : Layout → List Occurrence
  | .unit => []
  | .base place _ => [place]
  | .derived _ => []
  | .nested inner _ => inner.remaining placement
  | .join _ hasOn l r =>
    l.remaining placement
      ++ if takesTests placement hasOn r.isBase then [] else r.remaining placement

lemma Layout.pending_eq_filter (v : View) (placement : Placement) (L : Layout) :
    L.pending v placement = (L.remaining placement).filter (!v.exempts ·.name) := by
  induction L with
  | unit => rfl
  | base place bare =>
    rw [pending, remaining, List.filter_singleton]
    cases v.exempts place.name <;> rfl
  | derived alias? => rfl
  | nested inner alias? ih => exact ih
  | join op hasOn l r ihl ihr =>
    rw [pending, remaining, List.filter_append, ihl, ihr]
    split <;> rfl

end RowFence.Meaning

namespace RowFence.Scope

open Sql
open Meaning (Occurrence)

mutual

/-- The slots of a construct in the order in which scoping completes them, below the queries that
declare common tables. -/
inductive SlotTree where
  | slot (condition : Option Expr) (tables : List Occurrence)
  | query (ctes : List CteSlots) (clauses : List SlotTree)

structure CteSlots where
  given : Ident
  query : SlotTree

end

/-- The table whose predicate goes into the ON of its own join, if that has one. Inside another
construct no table gets a predicate. -/
def onTables : Option Placement → TableFactor → List Occurrence
  | some .joinCondition, .base name _ alias? _ => [⟨name, alias?⟩]
  | _, _ => []

section Constructs

mutual

def exprSlots : Expr → List SlotTree
  | .name _ => []
  | .value _ => []
  | .binary l _ r => exprSlots l ++ exprSlots r
  | .nested e => exprSlots e
  | .call _ rest => piecesSlots rest
  | .form pieces => piecesSlots pieces

def exprsSlots : List Expr → List SlotTree
  | [] => []
  | e :: es => exprSlots e ++ exprsSlots es

def optionSlots : Option Expr → List SlotTree
  | none => []
  | some e => exprSlots e

def pieceSlots : Piece → List SlotTree
  | .text _ => []
  | .expr e => exprSlots e
  | .query q => [querySlots q]
  | .table t => factorSlots none t

def piecesSlots : List Piece → List SlotTree
  | [] => []
  | p :: ps => pieceSlots p ++ piecesSlots ps

/-- Inside another construct a table has no placement, and subqueries that are tables are left
alone. -/
def factorSlots (placement? : Option Placement) : TableFactor → List SlotTree
  | .base _ arguments _ hints => piecesSlots arguments ++ piecesSlots hints
  | .derived _ q _ => if placement?.isSome then [querySlots q] else []
  | .nested inner _ => tableSlots placement? inner
  | .other pieces _ tail => piecesSlots pieces ++ piecesSlots tail

def constraintSlots (tables : List Occurrence) : JoinConstraint → List SlotTree
  | .on e => exprSlots e ++ [.slot (some e) tables]
  | .shared _ => []
  | .natural => []
  | .none => []

def joinsSlots (placement? : Option Placement) : List Join → List SlotTree
  | [] => []
  | { relation, matching, constraint, .. } :: js =>
    factorSlots placement? relation ++ (optionSlots matching
      ++ (constraintSlots (onTables placement? relation) constraint ++ joinsSlots placement? js))

def tableSlots (placement? : Option Placement) : TableWithJoins → List SlotTree
  | { relation, joins } => factorSlots placement? relation ++ joinsSlots placement? joins

def tablesSlots (placement : Placement) : List TableWithJoins → List SlotTree
  | [] => []
  | t :: ts => tableSlots (some placement) t ++ tablesSlots placement ts

def ctesSlots : List Cte → List CteSlots
  | [] => []
  | { given, query, .. } :: cs => ⟨given.name, querySlots query⟩ :: ctesSlots cs

def keysSlots : List OrderKey → List SlotTree
  | [] => []
  | { key, fill, .. } :: ks => exprSlots key ++ (piecesSlots fill ++ keysSlots ks)

def querySlots : Query → SlotTree
  | { ctes, body, orderBy, interpolate, limit, .. } =>
    .query (ctesSlots ctes)
      (bodySlots body ++ (keysSlots orderBy ++ (piecesSlots interpolate ++ optionSlots limit)))

def bodySlots : Body → List SlotTree
  | .select s => selectSlots s
  | .setOp l _ _ r => bodySlots l ++ bodySlots r
  | .query q => [querySlots q]
  | .rows _ => []
  | .table _ => []
  | .change _ => []

def itemsSlots : List SelectItem → List SlotTree
  | [] => []
  | .expr e _ :: is => exprSlots e ++ itemsSlots is
  | .wildcard _ options :: is => piecesSlots options ++ itemsSlots is

def distinctSlots : Distinct → List SlotTree
  | .none => []
  | .rows => []
  | .on keys => exprsSlots keys

def selectSlots : Select → List SlotTree
  | { top, distinct, items, tables, views, condition, groupBy, sorting, having, tail, .. } =>
    piecesSlots top ++ (distinctSlots distinct ++ (itemsSlots items ++ (piecesSlots views
      ++ (optionSlots condition ++ (exprsSlots groupBy ++ (piecesSlots sorting
      ++ (optionSlots having ++ (piecesSlots tail ++ (tablesSlots .joinCondition tables
      ++ [.slot condition ((Meaning.tablesLayout tables).remaining .joinCondition)])))))))))

end

def tableOptionSlots (placement : Placement) : Option TableWithJoins → List SlotTree
  | none => []
  | some t => tableSlots (some placement) t

def tableOptionRemaining (placement : Placement) : Option TableWithJoins → List Occurrence
  | none => []
  | some t => (Meaning.tableLayout t).remaining placement

def statementSlots : Statement → List SlotTree
  | .query q => [querySlots q]
  | .update { target, assignments, source?, condition, .. } =>
    piecesSlots assignments ++ (optionSlots condition ++ (tableSlots (some .statement) target
      ++ (tableOptionSlots .statement source?
      ++ [.slot condition ((Meaning.tableLayout target).remaining .statement
        ++ tableOptionRemaining .statement source?)])))
  | .delete { targets, sources, condition, .. } =>
    optionSlots condition ++ (tablesSlots .statement targets ++ (tablesSlots .statement sources
      ++ [.slot condition ((Meaning.tablesLayout targets).remaining .statement
        ++ (Meaning.tablesLayout sources).remaining .statement)]))
  | .other _ => []

def statementsSlots : List Statement → List SlotTree
  | [] => []
  | s :: ss => statementSlots s ++ statementsSlots ss

end Constructs

/-- What the clauses of a query see after its common tables. -/
def View.beyond (v : View) : List CteSlots → View
  | [] => v
  | c :: cs => beyond (v.withHidden c.given) cs

lemma beyond_ctesSlots (v : View) (cs : List Cte) : v.beyond (ctesSlots cs) = v.after cs := by
  induction cs generalizing v with
  | nil => rfl
  | cons c cs ih =>
    obtain ⟨given, query, source?, materialized⟩ := c
    exact ih (v.withHidden given.name)

section Insertions

mutual

/-- The tables that each slot gets a predicate for, slot by slot. -/
def SlotTree.insertions (v : View) : SlotTree → List (List Occurrence)
  | .slot _ tables => [tables.filter (!v.exempts ·.name)]
  | .query ctes clauses => cteInsertions v ctes ++ insertionsOf (v.beyond ctes) clauses

def insertionsOf (v : View) : List SlotTree → List (List Occurrence)
  | [] => []
  | s :: ss => s.insertions v ++ insertionsOf v ss

def cteInsertions (v : View) : List CteSlots → List (List Occurrence)
  | [] => []
  | { given, query } :: cs => query.insertions v ++ cteInsertions (v.withHidden given) cs

end

lemma insertionsOf_append (v : View) (first others : List SlotTree) :
    insertionsOf v (first ++ others) = insertionsOf v first ++ insertionsOf v others := by
  induction first with
  | nil => rfl
  | cons s ss ih => rw [List.cons_append, insertionsOf, ih, insertionsOf, List.append_assoc]

lemma insertionsOf_singleton (v : View) (s : SlotTree) : insertionsOf v [s] = s.insertions v :=
  List.append_nil _

end Insertions

section Conditions

mutual

/-- What stands in each slot. -/
def SlotTree.conditions : SlotTree → List (Option Expr)
  | .slot condition _ => [condition]
  | .query ctes clauses => cteConditions ctes ++ conditionsOf clauses

def conditionsOf : List SlotTree → List (Option Expr)
  | [] => []
  | s :: ss => s.conditions ++ conditionsOf ss

def cteConditions : List CteSlots → List (Option Expr)
  | [] => []
  | { query, .. } :: cs => query.conditions ++ cteConditions cs

end

end Conditions

end RowFence.Scope
