import RowFence.Proofs.Scope.Once
import RowFence.Proofs.Scope.Reach

/-! What of a statement decides which of its tables get a predicate: the tables that rows are taken
from, the common tables of its queries, and where these stand. Scoping gives predicates to the
tables of the outline that its view exposes. -/

namespace RowFence.Scope

open Sql

mutual

inductive Outline where
  | table (name : Name)
  | parts (inner : List Outline)
  /-- The common tables are the first part of a query, its clauses the others. -/
  | query (recursive : Bool) (ctes : List CteOutline) (clauses : List Outline)

structure CteOutline where
  given : Ident
  query : Outline

end

section Constructs

mutual

def exprOutline : Expr → Outline
  | .name _ => .parts []
  | .value _ => .parts []
  | .binary l _ r => .parts [exprOutline l, exprOutline r]
  | .nested e => .parts [exprOutline e]
  | .call _ rest => .parts [piecesOutline rest]
  | .form pieces => .parts [piecesOutline pieces]

def exprsOutline : List Expr → Outline
  | [] => .parts []
  | e :: es => .parts [exprOutline e, exprsOutline es]

def optionOutline : Option Expr → Outline
  | none => .parts []
  | some e => .parts [exprOutline e]

def pieceOutline : Piece → Outline
  | .text _ => .parts []
  | .expr e => .parts [exprOutline e]
  | .query q => .parts [queryOutline q]
  | .table t => .parts [innerOutline t]

def piecesOutline : List Piece → Outline
  | [] => .parts []
  | p :: ps => .parts [pieceOutline p, piecesOutline ps]

/-- Of a table that gets no predicate, with what is in it. -/
def innerOutline : TableFactor → Outline
  | .base _ arguments _ hints => .parts [piecesOutline arguments, piecesOutline hints]
  | .derived _ _ _ => .parts []
  | .nested inner _ => .parts [innerTableOutline inner]
  | .other pieces _ tail => .parts [piecesOutline pieces, piecesOutline tail]

def constraintOutline : JoinConstraint → Outline
  | .on e => .parts [exprOutline e]
  | .shared _ => .parts []
  | .natural => .parts []
  | .none => .parts []

def innerJoinsOutline : List Join → Outline
  | [] => .parts []
  | { relation, matching, constraint, .. } :: js =>
    .parts [innerOutline relation, optionOutline matching, constraintOutline constraint,
      innerJoinsOutline js]

def innerTableOutline : TableWithJoins → Outline
  | { relation, joins } => .parts [innerOutline relation, innerJoinsOutline joins]

def factorOutline : TableFactor → Outline
  | .base name arguments _ hints =>
    .parts [piecesOutline arguments, piecesOutline hints, .table name]
  | .derived _ q _ => .parts [queryOutline q]
  | .nested inner _ => .parts [tableOutline inner]
  | .other pieces _ tail => .parts [piecesOutline pieces, piecesOutline tail]

def joinsOutline : List Join → Outline
  | [] => .parts []
  | { relation, matching, constraint, .. } :: js =>
    .parts [factorOutline relation, optionOutline matching, constraintOutline constraint,
      joinsOutline js]

def tableOutline : TableWithJoins → Outline
  | { relation, joins } => .parts [factorOutline relation, joinsOutline joins]

def tablesOutline : List TableWithJoins → Outline
  | [] => .parts []
  | t :: ts => .parts [tableOutline t, tablesOutline ts]

def ctesOutline : List Cte → List CteOutline
  | [] => []
  | { given, query, .. } :: cs => ⟨given.name, queryOutline query⟩ :: ctesOutline cs

def keysOutline : List OrderKey → Outline
  | [] => .parts []
  | { key, fill, .. } :: ks => .parts [exprOutline key, piecesOutline fill, keysOutline ks]

def queryOutline : Query → Outline
  | { recursive, ctes, body, orderBy, interpolate, limit, .. } =>
    .query recursive (ctesOutline ctes)
      [bodyOutline body, keysOutline orderBy, piecesOutline interpolate, optionOutline limit]

def bodyOutline : Body → Outline
  | .select s => .parts [selectOutline s]
  | .setOp l _ _ r => .parts [bodyOutline l, bodyOutline r]
  | .query q => .parts [queryOutline q]
  | .rows _ => .parts []
  | .table _ => .parts []
  | .change _ => .parts []

def itemsOutline : List SelectItem → Outline
  | [] => .parts []
  | .expr e _ :: is => .parts [exprOutline e, itemsOutline is]
  | .wildcard _ options :: is => .parts [piecesOutline options, itemsOutline is]

def distinctOutline : Distinct → Outline
  | .none => .parts []
  | .rows => .parts []
  | .on keys => .parts [exprsOutline keys]

def selectOutline : Select → Outline
  | { top, distinct, items, tables, views, condition, groupBy, sorting, having, tail, .. } =>
    .parts [piecesOutline top, distinctOutline distinct, itemsOutline items, piecesOutline views,
      optionOutline condition, exprsOutline groupBy, piecesOutline sorting, optionOutline having,
      piecesOutline tail, tablesOutline tables]

end

def tableOptionOutline : Option TableWithJoins → Outline
  | none => .parts []
  | some t => .parts [tableOutline t]

def statementOutline : Statement → Outline
  | .query q => .parts [queryOutline q]
  | .update u =>
    .parts [.parts [piecesOutline u.assignments, optionOutline u.condition, tableOutline u.target,
      tableOptionOutline u.source?]]
  | .delete d =>
    .parts [.parts [optionOutline d.condition, tablesOutline d.targets, tablesOutline d.sources]]
  | .other _ => .parts []

def statementsOutline : List Statement → Outline
  | [] => .parts []
  | s :: ss => .parts [statementOutline s, statementsOutline ss]

end Constructs

/-- A table where it is named. -/
structure Mention where
  place : Place
  name : Name
  deriving DecidableEq, Repr

/-- The place of the common table with a number, in the query at `block`. -/
def ctePlace (block : Place) : Nat → Place
  | 0 => 0 :: block
  | n + 1 => 1 :: ctePlace block n

/-- A common table where it is declared: the place of its query, and how many common tables that
query declares before it. -/
structure Declaration where
  given : Ident
  recursive : Bool
  block : Place
  number : Nat
  deriving DecidableEq, Repr

mutual

def Outline.mentions (here : Place) : Outline → List Mention
  | .table name => [⟨here, name⟩]
  | .parts inner => partMentions here 0 inner
  | .query _ ctes clauses => cteMentions (0 :: here) ctes ++ partMentions here 1 clauses

def partMentions (here : Place) (n : Nat) : List Outline → List Mention
  | [] => []
  | o :: os => o.mentions (n :: here) ++ partMentions here (n + 1) os

def cteMentions (here : Place) : List CteOutline → List Mention
  | [] => []
  | { query, .. } :: cs => query.mentions (0 :: here) ++ cteMentions (1 :: here) cs

end

mutual

def Outline.declarations (here : Place) : Outline → List Declaration
  | .table _ => []
  | .parts inner => partDeclarations here 0 inner
  | .query recursive ctes clauses =>
    cteDeclarations recursive here 0 ctes ++ partDeclarations here 1 clauses

def partDeclarations (here : Place) (n : Nat) : List Outline → List Declaration
  | [] => []
  | o :: os => o.declarations (n :: here) ++ partDeclarations here (n + 1) os

def cteDeclarations (recursive : Bool) (block : Place) (n : Nat) :
    List CteOutline → List Declaration
  | [] => []
  | { given, query } :: cs =>
    ⟨given, recursive, block, n⟩ :: (query.declarations (0 :: ctePlace block n)
      ++ cteDeclarations recursive block (n + 1) cs)

end

def View.withAllHidden (v : View) : List CteOutline → View
  | [] => v
  | c :: cs => withAllHidden (v.withHidden c.given) cs

mutual

/-- The places of the tables that get a predicate. -/
def Outline.exposed (v : View) (here : Place) : Outline → List Place
  | .table name => if v.exempts name then [] else [here]
  | .parts inner => partsExposed v here 0 inner
  | .query _ ctes clauses =>
    ctesExposed v (0 :: here) ctes ++ partsExposed (v.withAllHidden ctes) here 1 clauses

def partsExposed (v : View) (here : Place) (n : Nat) : List Outline → List Place
  | [] => []
  | o :: os => o.exposed v (n :: here) ++ partsExposed v here (n + 1) os

def ctesExposed (v : View) (here : Place) : List CteOutline → List Place
  | [] => []
  | { given, query } :: cs =>
    query.exposed v (0 :: here) ++ ctesExposed (v.withHidden given) (1 :: here) cs

end

section Tracing

namespace Traced

variable {α β : Type}

@[simp] lemma tables_pure (a : α) : (pure a : Traced α).tables = [] := rfl

@[simp] lemma tables_bind (m : Traced α) (f : α → Traced β) :
    (m >>= f).tables = m.tables ++ (f m.value).tables := rfl

end Traced

lemma tables_hand (here : Place) : (hand here).tables = [] := rfl

lemma tables_predicated (v : View) (here : Place) (name : Name) (alias? : Option TableAlias) :
    (predicated here (v.predicates name alias?)).tables = (Outline.table name).exposed v here := by
  rw [predicated, View.predicates, Outline.exposed]
  split <;> rfl

lemma withAllHidden_ctesOutline (v : View) (cs : List Cte) :
    v.withAllHidden (ctesOutline cs) = v.after cs := by
  induction cs generalizing v with
  | nil => rfl
  | cons c cs ih =>
    obtain ⟨given, query, source?, materialized⟩ := c
    simp only [ctesOutline, View.withAllHidden, View.after]
    exact ih (v.withHidden given.name)

lemma view_traceCtes (v : View) (here : Place) (cs : List Cte) :
    (traceCtes v here cs).value.2 = v.withAllHidden (ctesOutline cs) := by
  have hvalue := congrArg Counted.value (counted_traceCtes v here cs)
  rw [withAllHidden_ctesOutline, ← (after_scopeCtes v cs).2, ← hvalue]
  rfl

mutual

lemma tables_traceExpr (v : View) (here : Place) :
    (e : Expr) → (traceExpr v here e).tables = (exprOutline e).exposed v here
  | .name _ => rfl
  | .value _ => rfl
  | .binary l op r => by
    simp only [traceExpr, exprOutline, Traced.tables_bind, Traced.tables_pure, Outline.exposed,
      partsExposed, tables_traceExpr v _ l, tables_traceExpr v _ r]
  | .nested e => by
    simp only [traceExpr, exprOutline, Traced.tables_bind, Traced.tables_pure, Outline.exposed,
      partsExposed, tables_traceExpr v _ e]
  | .call f rest => by
    simp only [traceExpr, exprOutline, Traced.tables_bind, Traced.tables_pure, Outline.exposed,
      partsExposed, tables_tracePieces v _ rest]
  | .form pieces => by
    simp only [traceExpr, exprOutline, Traced.tables_bind, Traced.tables_pure, Outline.exposed,
      partsExposed, tables_tracePieces v _ pieces]

lemma tables_traceExprs (v : View) (here : Place) :
    (es : List Expr) → (traceExprs v here es).tables = (exprsOutline es).exposed v here
  | [] => rfl
  | e :: es => by
    simp only [traceExprs, exprsOutline, Traced.tables_bind, Traced.tables_pure, Outline.exposed,
      partsExposed, tables_traceExpr v _ e, tables_traceExprs v _ es]

lemma tables_traceOption (v : View) (here : Place) :
    (e? : Option Expr) → (traceOption v here e?).tables = (optionOutline e?).exposed v here
  | none => rfl
  | some e => by
    simp only [traceOption, optionOutline, Traced.tables_bind, Traced.tables_pure, Outline.exposed,
      partsExposed, tables_traceExpr v _ e]

lemma tables_tracePiece (v : View) (here : Place) :
    (p : Piece) → (tracePiece v here p).tables = (pieceOutline p).exposed v here
  | .text _ => rfl
  | .expr e => by
    simp only [tracePiece, pieceOutline, Traced.tables_bind, Traced.tables_pure, Outline.exposed,
      partsExposed, tables_traceExpr v _ e]
  | .query q => by
    simp only [tracePiece, pieceOutline, Traced.tables_bind, Traced.tables_pure, Outline.exposed,
      partsExposed, tables_traceQuery v _ q]
  | .table t => by
    simp only [tracePiece, pieceOutline, Traced.tables_bind, Traced.tables_pure, Outline.exposed,
      partsExposed, tables_traceInner v _ t]

lemma tables_tracePieces (v : View) (here : Place) :
    (ps : List Piece) → (tracePieces v here ps).tables = (piecesOutline ps).exposed v here
  | [] => rfl
  | p :: ps => by
    simp only [tracePieces, piecesOutline, Traced.tables_bind, Traced.tables_pure, Outline.exposed,
      partsExposed, tables_tracePiece v _ p, tables_tracePieces v _ ps]

lemma tables_traceInner (v : View) (here : Place) :
    (t : TableFactor) → (traceInner v here t).tables = (innerOutline t).exposed v here
  | .base name arguments alias? hints => by
    simp only [traceInner, innerOutline, Traced.tables_bind, Traced.tables_pure, Outline.exposed,
      partsExposed, tables_tracePieces v _ arguments, tables_tracePieces v _ hints]
  | .derived _ _ _ => rfl
  | .nested inner alias? => by
    simp only [traceInner, innerOutline, Traced.tables_bind, Traced.tables_pure, Outline.exposed,
      partsExposed, tables_traceInnerTable v _ inner]
  | .other pieces alias? tail => by
    simp only [traceInner, innerOutline, Traced.tables_bind, Traced.tables_pure, Outline.exposed,
      partsExposed, tables_tracePieces v _ pieces, tables_tracePieces v _ tail]

lemma tables_traceConstraint (v : View) (here : Place) : (j : JoinConstraint) →
    (traceConstraint v here j).tables = (constraintOutline j).exposed v here
  | .on e => by
    simp only [traceConstraint, constraintOutline, Traced.tables_bind, Traced.tables_pure,
      Outline.exposed, partsExposed, tables_traceExpr v _ e]
  | .shared _ => rfl
  | .natural => rfl
  | .none => rfl

lemma tables_traceInnerJoins (v : View) (here : Place) : (js : List Join) →
    (traceInnerJoins v here js).tables = (innerJoinsOutline js).exposed v here
  | [] => rfl
  | { isGlobal, op, relation, matching, constraint } :: js => by
    simp only [traceInnerJoins, innerJoinsOutline, Traced.tables_bind, Traced.tables_pure,
      Outline.exposed, partsExposed, tables_traceInner v _ relation, tables_traceOption v _ matching,
      tables_traceConstraint v _ constraint, tables_traceInnerJoins v _ js]

lemma tables_traceInnerTable (v : View) (here : Place) : (t : TableWithJoins) →
    (traceInnerTable v here t).tables = (innerTableOutline t).exposed v here
  | { relation, joins } => by
    simp only [traceInnerTable, innerTableOutline, Traced.tables_bind, Traced.tables_pure,
      Outline.exposed, partsExposed, tables_traceInner v _ relation,
      tables_traceInnerJoins v _ joins]

lemma tables_traceFactor (v : View) (placement : Placement) (here : Place) : (t : TableFactor) →
    (traceFactor v placement here t).tables = (factorOutline t).exposed v here
  | .base name arguments alias? hints => by
    simp only [traceFactor, factorOutline, Traced.tables_bind, Traced.tables_pure,
      tables_predicated, tables_tracePieces v _ arguments, tables_tracePieces v _ hints]
    simp only [Outline.exposed, partsExposed]
  | .derived lateral q alias? => by
    simp only [traceFactor, factorOutline, Traced.tables_bind, Traced.tables_pure, Outline.exposed,
      partsExposed, tables_traceQuery v _ q]
  | .nested inner alias? => by
    simp only [traceFactor, factorOutline, Traced.tables_bind, Traced.tables_pure, Outline.exposed,
      partsExposed, tables_traceTable v placement _ inner]
  | .other pieces alias? tail => by
    simp only [traceFactor, factorOutline, Traced.tables_bind, Traced.tables_pure, Outline.exposed,
      partsExposed, tables_tracePieces v _ pieces, tables_tracePieces v _ tail]

lemma tables_traceJoins (v : View) (placement : Placement) (here : Place) : (js : List Join) →
    (traceJoins v placement here js).tables = (joinsOutline js).exposed v here
  | [] => rfl
  | { isGlobal, op, relation, matching, constraint } :: js => by
    simp only [traceJoins, joinsOutline, Traced.tables_bind, Traced.tables_pure, Outline.exposed,
      partsExposed, tables_traceFactor v placement _ relation, tables_traceOption v _ matching,
      tables_traceConstraint v _ constraint, tables_traceJoins v placement _ js]

lemma tables_traceTable (v : View) (placement : Placement) (here : Place) :
    (t : TableWithJoins) → (traceTable v placement here t).tables = (tableOutline t).exposed v here
  | { relation, joins } => by
    simp only [traceTable, tableOutline, Traced.tables_bind, Traced.tables_pure, Outline.exposed,
      partsExposed, tables_traceFactor v placement _ relation, tables_traceJoins v placement _ joins]

lemma tables_traceTables (v : View) (placement : Placement) (here : Place) :
    (ts : List TableWithJoins) →
      (traceTables v placement here ts).tables = (tablesOutline ts).exposed v here
  | [] => rfl
  | t :: ts => by
    simp only [traceTables, tablesOutline, Traced.tables_bind, Traced.tables_pure, Outline.exposed,
      partsExposed, tables_traceTable v placement _ t, tables_traceTables v placement _ ts]

lemma tables_traceCtes (v : View) (here : Place) :
    (cs : List Cte) → (traceCtes v here cs).tables = ctesExposed v here (ctesOutline cs)
  | [] => rfl
  | { given, query, source?, materialized } :: cs => by
    simp only [traceCtes, ctesOutline, Traced.tables_bind, Traced.tables_pure, ctesExposed,
      List.append_nil, tables_traceQuery v _ query, tables_traceCtes _ _ cs]

lemma tables_traceKeys (v : View) (here : Place) :
    (ks : List OrderKey) → (traceKeys v here ks).tables = (keysOutline ks).exposed v here
  | [] => rfl
  | { key, direction, fill } :: ks => by
    simp only [traceKeys, keysOutline, Traced.tables_bind, Traced.tables_pure, Outline.exposed,
      partsExposed, tables_traceExpr v _ key, tables_tracePieces v _ fill, tables_traceKeys v _ ks]

lemma tables_traceQuery (v : View) (here : Place) :
    (q : Query) → (traceQuery v here q).tables = (queryOutline q).exposed v here
  | { recursive, ctes, body, orderBy, interpolate, limit, tail } => by
    simp only [traceQuery, queryOutline, Traced.tables_bind, Traced.tables_pure, tables_hand,
      List.nil_append, Outline.exposed, partsExposed, view_traceCtes, tables_traceCtes v _ ctes,
      tables_traceBody _ _ body, tables_traceKeys _ _ orderBy, tables_tracePieces _ _ interpolate,
      tables_traceOption _ _ limit]

lemma tables_traceBody (v : View) (here : Place) :
    (b : Body) → (traceBody v here b).tables = (bodyOutline b).exposed v here
  | .select s => by
    simp only [traceBody, bodyOutline, Traced.tables_bind, Traced.tables_pure, Outline.exposed,
      partsExposed, tables_traceSelect v _ s]
  | .setOp l op quantifier r => by
    simp only [traceBody, bodyOutline, Traced.tables_bind, Traced.tables_pure, Outline.exposed,
      partsExposed, tables_traceBody v _ l, tables_traceBody v _ r]
  | .query q => by
    simp only [traceBody, bodyOutline, Traced.tables_bind, Traced.tables_pure, Outline.exposed,
      partsExposed, tables_traceQuery v _ q]
  | .rows _ => rfl
  | .table _ => rfl
  | .change _ => rfl

lemma tables_traceItems (v : View) (here : Place) :
    (is : List SelectItem) → (traceItems v here is).tables = (itemsOutline is).exposed v here
  | [] => rfl
  | .expr e alias? :: is => by
    simp only [traceItems, itemsOutline, Traced.tables_bind, Traced.tables_pure, Outline.exposed,
      partsExposed, tables_traceExpr v _ e, tables_traceItems v _ is]
  | .wildcard qualifier options :: is => by
    simp only [traceItems, itemsOutline, Traced.tables_bind, Traced.tables_pure, Outline.exposed,
      partsExposed, tables_tracePieces v _ options, tables_traceItems v _ is]

lemma tables_traceDistinct (v : View) (here : Place) :
    (d : Distinct) → (traceDistinct v here d).tables = (distinctOutline d).exposed v here
  | .none => rfl
  | .rows => rfl
  | .on keys => by
    simp only [traceDistinct, distinctOutline, Traced.tables_bind, Traced.tables_pure,
      Outline.exposed, partsExposed, tables_traceExprs v _ keys]

lemma tables_traceSelect (v : View) (here : Place) :
    (s : Select) → (traceSelect v here s).tables = (selectOutline s).exposed v here
  | { top, topFirst, distinct, items, into, tables, views, condition, groupAll, groupBy,
      groupModifiers, sorting, having, tail } => by
    simp only [traceSelect, selectOutline, Traced.tables_bind, Traced.tables_pure, Outline.exposed,
      partsExposed, tables_tracePieces v _ top, tables_traceDistinct v _ distinct,
      tables_traceItems v _ items, tables_tracePieces v _ views, tables_traceOption v _ condition,
      tables_traceExprs v _ groupBy, tables_tracePieces v _ sorting, tables_traceOption v _ having,
      tables_tracePieces v _ tail, tables_traceTables v _ _ tables]

end

lemma tables_traceTableOption (v : View) (placement : Placement) (here : Place)
    (t? : Option TableWithJoins) :
    (traceTableOption v placement here t?).tables = (tableOptionOutline t?).exposed v here := by
  cases t? with
  | none => rfl
  | some t =>
    simp only [traceTableOption, tableOptionOutline, Traced.tables_bind, Traced.tables_pure,
      Outline.exposed, partsExposed, tables_traceTable]

lemma tables_traceStatement (v : View) (here : Place) (s : Statement) :
    (traceStatement v here s).tables = (statementOutline s).exposed v here := by
  cases s with
  | query q =>
    simp only [traceStatement, statementOutline, Traced.tables_bind, Traced.tables_pure,
      Outline.exposed, partsExposed, tables_traceQuery]
  | update u =>
    simp only [traceStatement, traceUpdate, statementOutline, Traced.tables_bind,
      Traced.tables_pure, Outline.exposed, partsExposed, tables_tracePieces, tables_traceOption,
      tables_traceTable, tables_traceTableOption]
  | delete d =>
    simp only [traceStatement, traceDelete, statementOutline, Traced.tables_bind,
      Traced.tables_pure, Outline.exposed, partsExposed, tables_traceOption, tables_traceTables]
  | other pieces => rfl

lemma tables_traceStatements (v : View) (here : Place) (ss : List Statement) :
    (traceStatements v here ss).tables = (statementsOutline ss).exposed v here := by
  induction ss generalizing here with
  | nil => rfl
  | cons s ss ih =>
    simp only [traceStatements, statementsOutline, Traced.tables_bind, Traced.tables_pure,
      Outline.exposed, partsExposed, tables_traceStatement, ih]

end Tracing

end RowFence.Scope
