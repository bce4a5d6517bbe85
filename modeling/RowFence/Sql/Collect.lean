import RowFence.Sql.Syntax

/-! What a function finds at the nodes of a construct, at every depth, in the order in which they
stand. -/

namespace RowFence.Sql

variable {α : Type}

/-- An expression, a table that is named, or a name that is given to a query or an expression. -/
inductive Node where
  | expr (e : Expr)
  | table (name : Name) (alias? : Option TableAlias)
  | given (name : Ident)

def collectAlias (f : Node → List α) : Option TableAlias → List α
  | none => []
  | some a => f (.given a.name)

mutual

def Expr.collect (f : Node → List α) : Expr → List α
  | .name parts => f (.expr (.name parts))
  | .value s => f (.expr (.value s))
  | .binary l op r => f (.expr (.binary l op r)) ++ l.collect f ++ r.collect f
  | .nested e => f (.expr (.nested e)) ++ e.collect f
  | .call g rest => f (.expr (.call g rest)) ++ collectPieces f rest
  | .form pieces => f (.expr (.form pieces)) ++ collectPieces f pieces

def collectExprs (f : Node → List α) : List Expr → List α
  | [] => []
  | e :: es => e.collect f ++ collectExprs f es

def collectOption (f : Node → List α) : Option Expr → List α
  | none => []
  | some e => e.collect f

def Piece.collect (f : Node → List α) : Piece → List α
  | .text _ => []
  | .expr e => e.collect f
  | .query q => q.collect f
  | .table t => t.collect f

def collectPieces (f : Node → List α) : List Piece → List α
  | [] => []
  | p :: ps => p.collect f ++ collectPieces f ps

def TableFactor.collect (f : Node → List α) : TableFactor → List α
  | .base name arguments alias? hints =>
    f (.table name alias?) ++ collectPieces f arguments ++ collectPieces f hints
  | .derived _ q alias? => q.collect f ++ collectAlias f alias?
  | .nested inner alias? => inner.collect f ++ collectAlias f alias?
  | .other pieces alias? tail =>
    collectPieces f pieces ++ collectAlias f alias? ++ collectPieces f tail

def JoinConstraint.collect (f : Node → List α) : JoinConstraint → List α
  | .on e => e.collect f
  | .shared _ => []
  | .natural => []
  | .none => []

def Join.collect (f : Node → List α) : Join → List α
  | { relation, matching, constraint, .. } =>
    relation.collect f ++ collectOption f matching ++ constraint.collect f

def collectJoins (f : Node → List α) : List Join → List α
  | [] => []
  | j :: js => j.collect f ++ collectJoins f js

def TableWithJoins.collect (f : Node → List α) : TableWithJoins → List α
  | { relation, joins } => relation.collect f ++ collectJoins f joins

def collectTables (f : Node → List α) : List TableWithJoins → List α
  | [] => []
  | t :: ts => t.collect f ++ collectTables f ts

def collectTableOption (f : Node → List α) : Option TableWithJoins → List α
  | none => []
  | some t => t.collect f

def collectCtes (f : Node → List α) : List Cte → List α
  | [] => []
  | { given, query, .. } :: cs => f (.given given.name) ++ query.collect f ++ collectCtes f cs

def collectKeys (f : Node → List α) : List OrderKey → List α
  | [] => []
  | { key, fill, .. } :: ks => key.collect f ++ collectPieces f fill ++ collectKeys f ks

def Query.collect (f : Node → List α) : Query → List α
  | { ctes, body, orderBy, interpolate, limit, tail, .. } =>
    collectCtes f ctes ++ body.collect f ++ collectKeys f orderBy ++ collectPieces f interpolate
      ++ collectOption f limit ++ collectPieces f tail

def Body.collect (f : Node → List α) : Body → List α
  | .select s => s.collect f
  | .setOp l _ _ r => l.collect f ++ r.collect f
  | .query q => q.collect f
  | .rows pieces => collectPieces f pieces
  | .table _ => []
  | .change s => s.collect f

def collectItems (f : Node → List α) : List SelectItem → List α
  | [] => []
  | .expr e alias? :: is =>
    e.collect f ++ (alias?.map fun a => f (.given a)).getD [] ++ collectItems f is
  | .wildcard _ options :: is => collectPieces f options ++ collectItems f is

def Distinct.collect (f : Node → List α) : Distinct → List α
  | .none => []
  | .rows => []
  | .on keys => collectExprs f keys

def Select.collect (f : Node → List α) : Select → List α
  | { top, distinct, items, tables, views, condition, groupBy, sorting, having, tail, .. } =>
    collectPieces f top ++ distinct.collect f ++ collectItems f items ++ collectTables f tables
      ++ collectPieces f views ++ collectOption f condition ++ collectExprs f groupBy
      ++ collectPieces f sorting ++ collectOption f having ++ collectPieces f tail

def Statement.collect (f : Node → List α) : Statement → List α
  | .query q => q.collect f
  | .update { target, assignments, source?, condition, returning } =>
    target.collect f ++ collectPieces f assignments ++ collectTableOption f source?
      ++ collectOption f condition ++ collectPieces f returning
  | .delete { targets, sources, condition, tail, .. } =>
    collectTables f targets ++ collectTables f sources ++ collectOption f condition
      ++ collectPieces f tail
  | .other pieces => collectPieces f pieces

end

end RowFence.Sql
