import Mathlib.Tactic.Lemma
import RowFence.Sql.Collect

/-! Statements with their literals spelled in another way. Nothing else of a statement changes. -/

namespace RowFence.Sql

mutual

def Expr.respell (f : String → String) : Expr → Expr
  | .name parts => .name parts
  | .value s => .value (f s)
  | .binary l op r => .binary (l.respell f) op (r.respell f)
  | .nested e => .nested (e.respell f)
  | .call g rest => .call g (respellPieces f rest)
  | .form pieces => .form (respellPieces f pieces)

def respellExprs (f : String → String) : List Expr → List Expr
  | [] => []
  | e :: es => e.respell f :: respellExprs f es

def respellOption (f : String → String) : Option Expr → Option Expr
  | none => none
  | some e => some (e.respell f)

def Piece.respell (f : String → String) : Piece → Piece
  | .text s => .text s
  | .expr e => .expr (e.respell f)
  | .query q => .query (q.respell f)
  | .table t => .table (t.respell f)

def respellPieces (f : String → String) : List Piece → List Piece
  | [] => []
  | p :: ps => p.respell f :: respellPieces f ps

def TableFactor.respell (f : String → String) : TableFactor → TableFactor
  | .base name arguments alias? hints =>
    .base name (respellPieces f arguments) alias? (respellPieces f hints)
  | .derived lateral q alias? => .derived lateral (q.respell f) alias?
  | .nested inner alias? => .nested (inner.respell f) alias?
  | .other pieces alias? tail => .other (respellPieces f pieces) alias? (respellPieces f tail)

def JoinConstraint.respell (f : String → String) : JoinConstraint → JoinConstraint
  | .on e => .on (e.respell f)
  | .shared columns => .shared columns
  | .natural => .natural
  | .none => .none

def Join.respell (f : String → String) : Join → Join
  | { isGlobal, op, relation, matching, constraint } =>
    { isGlobal, op, relation := relation.respell f, matching := respellOption f matching,
      constraint := constraint.respell f }

def respellJoins (f : String → String) : List Join → List Join
  | [] => []
  | j :: js => j.respell f :: respellJoins f js

def TableWithJoins.respell (f : String → String) : TableWithJoins → TableWithJoins
  | { relation, joins } => { relation := relation.respell f, joins := respellJoins f joins }

def respellTables (f : String → String) : List TableWithJoins → List TableWithJoins
  | [] => []
  | t :: ts => t.respell f :: respellTables f ts

def respellTableOption (f : String → String) : Option TableWithJoins → Option TableWithJoins
  | none => none
  | some t => some (t.respell f)

def respellCtes (f : String → String) : List Cte → List Cte
  | [] => []
  | { given, query, source?, materialized } :: cs =>
    { given, query := query.respell f, source?, materialized } :: respellCtes f cs

def respellKeys (f : String → String) : List OrderKey → List OrderKey
  | [] => []
  | { key, direction, fill } :: ks =>
    { key := key.respell f, direction, fill := respellPieces f fill } :: respellKeys f ks

def Query.respell (f : String → String) : Query → Query
  | { recursive, ctes, body, orderBy, interpolate, limit, tail } =>
    { recursive, ctes := respellCtes f ctes, body := body.respell f,
      orderBy := respellKeys f orderBy, interpolate := respellPieces f interpolate,
      limit := respellOption f limit, tail := respellPieces f tail }

def Body.respell (f : String → String) : Body → Body
  | .select s => .select (s.respell f)
  | .setOp l op quantifier r => .setOp (l.respell f) op quantifier (r.respell f)
  | .query q => .query (q.respell f)
  | .rows pieces => .rows (respellPieces f pieces)
  | .table s => .table s
  | .change s => .change (s.respell f)

def respellItems (f : String → String) : List SelectItem → List SelectItem
  | [] => []
  | .expr e alias? :: is => .expr (e.respell f) alias? :: respellItems f is
  | .wildcard qualifier options :: is =>
    .wildcard qualifier (respellPieces f options) :: respellItems f is

def Distinct.respell (f : String → String) : Distinct → Distinct
  | .none => .none
  | .rows => .rows
  | .on keys => .on (respellExprs f keys)

def Select.respell (f : String → String) : Select → Select
  | { top, topFirst, distinct, items, into, tables, views, condition, groupAll, groupBy,
      groupModifiers, sorting, having, tail } =>
    { top := respellPieces f top, topFirst, distinct := distinct.respell f,
      items := respellItems f items, into, tables := respellTables f tables,
      views := respellPieces f views, condition := respellOption f condition, groupAll,
      groupBy := respellExprs f groupBy, groupModifiers, sorting := respellPieces f sorting,
      having := respellOption f having, tail := respellPieces f tail }

def Statement.respell (f : String → String) : Statement → Statement
  | .query q => .query (q.respell f)
  | .update { target, assignments, source?, condition, returning } =>
    .update
      { target := target.respell f, assignments := respellPieces f assignments,
        source? := respellTableOption f source?, condition := respellOption f condition,
        returning := respellPieces f returning }
  | .delete { named, fromKeyword, targets, sources, condition, tail } =>
    .delete
      { named, fromKeyword, targets := respellTables f targets,
        sources := respellTables f sources, condition := respellOption f condition,
        tail := respellPieces f tail }
  | .other pieces => .other (respellPieces f pieces)

end

def Node.respell (f : String → String) : Node → Node
  | .expr e => .expr (e.respell f)
  | .table name alias? => .table name alias?
  | .given name => .given name

section Collecting

variable {α : Type} (f : String → String) (g : Node → List α)

lemma collectAlias_respell (alias? : Option TableAlias) :
    collectAlias (g ∘ Node.respell f) alias? = collectAlias g alias? := by
  cases alias? <;> rfl

mutual

lemma Expr.collect_respell : (e : Expr) →
    (e.respell f).collect g = e.collect (g ∘ Node.respell f)
  | .name _ => rfl
  | .value _ => rfl
  | .binary l op r => by
    simp only [Expr.respell, Expr.collect, Expr.collect_respell l, Expr.collect_respell r,
      Function.comp_apply, Node.respell]
  | .nested e => by
    simp only [Expr.respell, Expr.collect, Expr.collect_respell e, Function.comp_apply,
      Node.respell]
  | .call _ rest => by
    simp only [Expr.respell, Expr.collect, collectPieces_respell rest, Function.comp_apply,
      Node.respell]
  | .form pieces => by
    simp only [Expr.respell, Expr.collect, collectPieces_respell pieces, Function.comp_apply,
      Node.respell]

lemma collectExprs_respell : (es : List Expr) →
    collectExprs g (respellExprs f es) = collectExprs (g ∘ Node.respell f) es
  | [] => rfl
  | e :: es => by
    simp only [respellExprs, collectExprs, Expr.collect_respell e, collectExprs_respell es]

lemma collectOption_respell : (e? : Option Expr) →
    collectOption g (respellOption f e?) = collectOption (g ∘ Node.respell f) e?
  | none => rfl
  | some e => Expr.collect_respell e

lemma Piece.collect_respell : (p : Piece) →
    (p.respell f).collect g = p.collect (g ∘ Node.respell f)
  | .text _ => rfl
  | .expr e => Expr.collect_respell e
  | .query q => Query.collect_respell q
  | .table t => TableFactor.collect_respell t

lemma collectPieces_respell : (ps : List Piece) →
    collectPieces g (respellPieces f ps) = collectPieces (g ∘ Node.respell f) ps
  | [] => rfl
  | p :: ps => by
    simp only [respellPieces, collectPieces, Piece.collect_respell p, collectPieces_respell ps]

lemma TableFactor.collect_respell : (t : TableFactor) →
    (t.respell f).collect g = t.collect (g ∘ Node.respell f)
  | .base _ arguments _ hints => by
    simp only [TableFactor.respell, TableFactor.collect, collectPieces_respell arguments,
      collectPieces_respell hints, Function.comp_apply, Node.respell]
  | .derived _ q _ => by
    simp only [TableFactor.respell, TableFactor.collect, Query.collect_respell q,
      collectAlias_respell]
  | .nested inner _ => by
    simp only [TableFactor.respell, TableFactor.collect, TableWithJoins.collect_respell inner,
      collectAlias_respell]
  | .other pieces _ tail => by
    simp only [TableFactor.respell, TableFactor.collect, collectPieces_respell pieces,
      collectPieces_respell tail, collectAlias_respell]

lemma JoinConstraint.collect_respell : (j : JoinConstraint) →
    (j.respell f).collect g = j.collect (g ∘ Node.respell f)
  | .on e => Expr.collect_respell e
  | .shared _ => rfl
  | .natural => rfl
  | .none => rfl

lemma Join.collect_respell : (j : Join) → (j.respell f).collect g = j.collect (g ∘ Node.respell f)
  | { relation, matching, constraint, .. } => by
    simp only [Join.respell, Join.collect, TableFactor.collect_respell relation,
      collectOption_respell matching, JoinConstraint.collect_respell constraint]

lemma collectJoins_respell : (js : List Join) →
    collectJoins g (respellJoins f js) = collectJoins (g ∘ Node.respell f) js
  | [] => rfl
  | j :: js => by
    simp only [respellJoins, collectJoins, Join.collect_respell j, collectJoins_respell js]

lemma TableWithJoins.collect_respell : (t : TableWithJoins) →
    (t.respell f).collect g = t.collect (g ∘ Node.respell f)
  | { relation, joins } => by
    simp only [TableWithJoins.respell, TableWithJoins.collect, TableFactor.collect_respell relation,
      collectJoins_respell joins]

lemma collectTables_respell : (ts : List TableWithJoins) →
    collectTables g (respellTables f ts) = collectTables (g ∘ Node.respell f) ts
  | [] => rfl
  | t :: ts => by
    simp only [respellTables, collectTables, TableWithJoins.collect_respell t,
      collectTables_respell ts]

lemma collectTableOption_respell : (t? : Option TableWithJoins) →
    collectTableOption g (respellTableOption f t?) = collectTableOption (g ∘ Node.respell f) t?
  | none => rfl
  | some t => TableWithJoins.collect_respell t

lemma collectCtes_respell : (cs : List Cte) →
    collectCtes g (respellCtes f cs) = collectCtes (g ∘ Node.respell f) cs
  | [] => rfl
  | { query, .. } :: cs => by
    simp only [respellCtes, collectCtes, Query.collect_respell query, collectCtes_respell cs,
      Function.comp_apply, Node.respell]

lemma collectKeys_respell : (ks : List OrderKey) →
    collectKeys g (respellKeys f ks) = collectKeys (g ∘ Node.respell f) ks
  | [] => rfl
  | { key, fill, .. } :: ks => by
    simp only [respellKeys, collectKeys, Expr.collect_respell key, collectPieces_respell fill,
      collectKeys_respell ks]

lemma Query.collect_respell : (q : Query) →
    (q.respell f).collect g = q.collect (g ∘ Node.respell f)
  | { ctes, body, orderBy, interpolate, limit, tail, .. } => by
    simp only [Query.respell, Query.collect, collectCtes_respell ctes, Body.collect_respell body,
      collectKeys_respell orderBy, collectPieces_respell interpolate, collectOption_respell limit,
      collectPieces_respell tail]

lemma Body.collect_respell : (b : Body) → (b.respell f).collect g = b.collect (g ∘ Node.respell f)
  | .select s => Select.collect_respell s
  | .setOp l _ _ r => by
    simp only [Body.respell, Body.collect, Body.collect_respell l, Body.collect_respell r]
  | .query q => Query.collect_respell q
  | .rows pieces => collectPieces_respell pieces
  | .table _ => rfl
  | .change s => Statement.collect_respell s

lemma collectItems_respell : (is : List SelectItem) →
    collectItems g (respellItems f is) = collectItems (g ∘ Node.respell f) is
  | [] => rfl
  | .expr e alias? :: is => by
    simp only [respellItems, collectItems, Expr.collect_respell e, collectItems_respell is,
      Function.comp_apply, Node.respell]
  | .wildcard _ options :: is => by
    simp only [respellItems, collectItems, collectPieces_respell options, collectItems_respell is]

lemma Distinct.collect_respell : (d : Distinct) →
    (d.respell f).collect g = d.collect (g ∘ Node.respell f)
  | .none => rfl
  | .rows => rfl
  | .on keys => collectExprs_respell keys

lemma Select.collect_respell : (s : Select) →
    (s.respell f).collect g = s.collect (g ∘ Node.respell f)
  | { top, distinct, items, tables, views, condition, groupBy, sorting, having, tail, .. } => by
    simp only [Select.respell, Select.collect, collectPieces_respell top,
      Distinct.collect_respell distinct, collectItems_respell items, collectTables_respell tables,
      collectPieces_respell views, collectOption_respell condition, collectExprs_respell groupBy,
      collectPieces_respell sorting, collectOption_respell having, collectPieces_respell tail]

lemma Statement.collect_respell : (s : Statement) →
    (s.respell f).collect g = s.collect (g ∘ Node.respell f)
  | .query q => Query.collect_respell q
  | .update { target, assignments, source?, condition, returning } => by
    simp only [Statement.respell, Statement.collect, TableWithJoins.collect_respell target,
      collectPieces_respell assignments, collectTableOption_respell source?,
      collectOption_respell condition, collectPieces_respell returning]
  | .delete { targets, sources, condition, tail, .. } => by
    simp only [Statement.respell, Statement.collect, collectTables_respell targets,
      collectTables_respell sources, collectOption_respell condition, collectPieces_respell tail]
  | .other pieces => collectPieces_respell pieces

end

end Collecting

section Undoing

variable {f g : String → String}

mutual

lemma Expr.respell_undone (h : g.LeftInverse f) : (e : Expr) → (e.respell f).respell g = e
  | .name _ => rfl
  | .value s => by simp only [Expr.respell, h s]
  | .binary l op r => by simp only [Expr.respell, Expr.respell_undone h l, Expr.respell_undone h r]
  | .nested e => by simp only [Expr.respell, Expr.respell_undone h e]
  | .call _ rest => by simp only [Expr.respell, respellPieces_undone h rest]
  | .form pieces => by simp only [Expr.respell, respellPieces_undone h pieces]

lemma respellExprs_undone (h : g.LeftInverse f) : (es : List Expr) →
    respellExprs g (respellExprs f es) = es
  | [] => rfl
  | e :: es => by simp only [respellExprs, Expr.respell_undone h e, respellExprs_undone h es]

lemma respellOption_undone (h : g.LeftInverse f) : (e? : Option Expr) →
    respellOption g (respellOption f e?) = e?
  | none => rfl
  | some e => by simp only [respellOption, Expr.respell_undone h e]

lemma Piece.respell_undone (h : g.LeftInverse f) : (p : Piece) → (p.respell f).respell g = p
  | .text _ => rfl
  | .expr e => by simp only [Piece.respell, Expr.respell_undone h e]
  | .query q => by simp only [Piece.respell, Query.respell_undone h q]
  | .table t => by simp only [Piece.respell, TableFactor.respell_undone h t]

lemma respellPieces_undone (h : g.LeftInverse f) : (ps : List Piece) →
    respellPieces g (respellPieces f ps) = ps
  | [] => rfl
  | p :: ps => by simp only [respellPieces, Piece.respell_undone h p, respellPieces_undone h ps]

lemma TableFactor.respell_undone (h : g.LeftInverse f) : (t : TableFactor) →
    (t.respell f).respell g = t
  | .base _ arguments _ hints => by
    simp only [TableFactor.respell, respellPieces_undone h arguments, respellPieces_undone h hints]
  | .derived _ q _ => by simp only [TableFactor.respell, Query.respell_undone h q]
  | .nested inner _ => by simp only [TableFactor.respell, TableWithJoins.respell_undone h inner]
  | .other pieces _ tail => by
    simp only [TableFactor.respell, respellPieces_undone h pieces, respellPieces_undone h tail]

lemma JoinConstraint.respell_undone (h : g.LeftInverse f) : (j : JoinConstraint) →
    (j.respell f).respell g = j
  | .on e => by simp only [JoinConstraint.respell, Expr.respell_undone h e]
  | .shared _ => rfl
  | .natural => rfl
  | .none => rfl

lemma Join.respell_undone (h : g.LeftInverse f) : (j : Join) → (j.respell f).respell g = j
  | { relation, matching, constraint, .. } => by
    simp only [Join.respell, TableFactor.respell_undone h relation, respellOption_undone h matching,
      JoinConstraint.respell_undone h constraint]

lemma respellJoins_undone (h : g.LeftInverse f) : (js : List Join) →
    respellJoins g (respellJoins f js) = js
  | [] => rfl
  | j :: js => by simp only [respellJoins, Join.respell_undone h j, respellJoins_undone h js]

lemma TableWithJoins.respell_undone (h : g.LeftInverse f) : (t : TableWithJoins) →
    (t.respell f).respell g = t
  | { relation, joins } => by
    simp only [TableWithJoins.respell, TableFactor.respell_undone h relation,
      respellJoins_undone h joins]

lemma respellTables_undone (h : g.LeftInverse f) : (ts : List TableWithJoins) →
    respellTables g (respellTables f ts) = ts
  | [] => rfl
  | t :: ts => by
    simp only [respellTables, TableWithJoins.respell_undone h t, respellTables_undone h ts]

lemma respellTableOption_undone (h : g.LeftInverse f) : (t? : Option TableWithJoins) →
    respellTableOption g (respellTableOption f t?) = t?
  | none => rfl
  | some t => by simp only [respellTableOption, TableWithJoins.respell_undone h t]

lemma respellCtes_undone (h : g.LeftInverse f) : (cs : List Cte) →
    respellCtes g (respellCtes f cs) = cs
  | [] => rfl
  | { query, .. } :: cs => by
    simp only [respellCtes, Query.respell_undone h query, respellCtes_undone h cs]

lemma respellKeys_undone (h : g.LeftInverse f) : (ks : List OrderKey) →
    respellKeys g (respellKeys f ks) = ks
  | [] => rfl
  | { key, fill, .. } :: ks => by
    simp only [respellKeys, Expr.respell_undone h key, respellPieces_undone h fill,
      respellKeys_undone h ks]

lemma Query.respell_undone (h : g.LeftInverse f) : (q : Query) → (q.respell f).respell g = q
  | { ctes, body, orderBy, interpolate, limit, tail, .. } => by
    simp only [Query.respell, respellCtes_undone h ctes, Body.respell_undone h body,
      respellKeys_undone h orderBy, respellPieces_undone h interpolate,
      respellOption_undone h limit, respellPieces_undone h tail]

lemma Body.respell_undone (h : g.LeftInverse f) : (b : Body) → (b.respell f).respell g = b
  | .select s => by simp only [Body.respell, Select.respell_undone h s]
  | .setOp l _ _ r => by simp only [Body.respell, Body.respell_undone h l, Body.respell_undone h r]
  | .query q => by simp only [Body.respell, Query.respell_undone h q]
  | .rows pieces => by simp only [Body.respell, respellPieces_undone h pieces]
  | .table _ => rfl
  | .change s => by simp only [Body.respell, Statement.respell_undone h s]

lemma respellItems_undone (h : g.LeftInverse f) : (is : List SelectItem) →
    respellItems g (respellItems f is) = is
  | [] => rfl
  | .expr e _ :: is => by
    simp only [respellItems, Expr.respell_undone h e, respellItems_undone h is]
  | .wildcard _ options :: is => by
    simp only [respellItems, respellPieces_undone h options, respellItems_undone h is]

lemma Distinct.respell_undone (h : g.LeftInverse f) : (d : Distinct) → (d.respell f).respell g = d
  | .none => rfl
  | .rows => rfl
  | .on keys => by simp only [Distinct.respell, respellExprs_undone h keys]

lemma Select.respell_undone (h : g.LeftInverse f) : (s : Select) → (s.respell f).respell g = s
  | { top, distinct, items, tables, views, condition, groupBy, sorting, having, tail, .. } => by
    simp only [Select.respell, respellPieces_undone h top, Distinct.respell_undone h distinct,
      respellItems_undone h items, respellTables_undone h tables, respellPieces_undone h views,
      respellOption_undone h condition, respellExprs_undone h groupBy,
      respellPieces_undone h sorting, respellOption_undone h having, respellPieces_undone h tail]

lemma Statement.respell_undone (h : g.LeftInverse f) : (s : Statement) → (s.respell f).respell g = s
  | .query q => by simp only [Statement.respell, Query.respell_undone h q]
  | .update { target, assignments, source?, condition, returning } => by
    simp only [Statement.respell, TableWithJoins.respell_undone h target,
      respellPieces_undone h assignments, respellTableOption_undone h source?,
      respellOption_undone h condition, respellPieces_undone h returning]
  | .delete { targets, sources, condition, tail, .. } => by
    simp only [Statement.respell, respellTables_undone h targets, respellTables_undone h sources,
      respellOption_undone h condition, respellPieces_undone h tail]
  | .other pieces => by simp only [Statement.respell, respellPieces_undone h pieces]

end

end Undoing

end RowFence.Sql
