import RowFence.Proofs.Meaning.Statement
import RowFence.Proofs.Scope.Queries

/-! The layout of a FROM clause, which is what remains of it without conditions and subqueries, and
queries all of whose FROM clauses are laid out in a given way. -/

namespace RowFence.Meaning

open Sql Scope

variable {V : Type}

inductive Layout where
  | unit
  | base (place : Occurrence) (bare : Bool)
  | derived (alias? : Option TableAlias)
  | nested (inner : Layout) (alias? : Option TableAlias)
  | join (op : JoinOp) (hasOn : Bool) (left right : Layout)

def JoinConstraint.hasOn : JoinConstraint → Bool
  | .on _ => true
  | _ => false

mutual

def factorLayout : TableFactor → Layout
  | .base name arguments alias? hints => .base ⟨name, alias?⟩ (arguments.isEmpty && hints.isEmpty)
  | .derived _ _ alias? => .derived alias?
  | .nested inner alias? => .nested (tableLayout inner) alias?
  | .other _ alias? _ => .derived alias?

def joinsLayout (first : Layout) : List Join → Layout
  | [] => first
  | { op, relation, constraint, .. } :: js =>
    joinsLayout (.join op (JoinConstraint.hasOn constraint) first (factorLayout relation)) js

def tableLayout : TableWithJoins → Layout
  | { relation, joins } => joinsLayout (factorLayout relation) joins

end

def tablesLayout : List TableWithJoins → Layout
  | [] => .unit
  | t :: ts => .join .cross false (tableLayout t) (tablesLayout ts)

def Link.hasOn : Link V → Bool
  | .on _ => true
  | .merge _ => false

def Plan.layout : Plan V → Layout
  | .unit => .unit
  | .base place access? => .base place access?.isNone
  | .derived _ _ alias? => .derived alias?
  | .nested inner alias? => .nested inner.layout alias?
  | .join op _ link l r => .join op link.hasOn l.layout r.layout

def Layout.places : Layout → List Occurrence
  | .unit => []
  | .base place _ => [place]
  | .derived alias? => [⟨[], alias?⟩]
  | .nested inner none => inner.places
  | .nested _ (some a) => [⟨[], some a⟩]
  | .join _ _ l r => l.places ++ r.places

def Layout.isBase : Layout → Bool
  | .base .. => true
  | _ => false

/-- Whether no qualifier that means one place means the other, too. -/
def Occurrence.isApart (a b : Occurrence) : Bool :=
  a.path.isEmpty || b.path.isEmpty || !(a.path.isSuffixOf b.path || b.path.isSuffixOf a.path)

def isDistinct : List Occurrence → Bool
  | [] => true
  | a :: rest => rest.all a.isApart && isDistinct rest

def Plan.isBase : Plan V → Bool
  | .base .. => true
  | _ => false

@[simp] lemma Plan.isBase_layout (p : Plan V) : p.layout.isBase = p.isBase := by
  cases p <;> rfl

section Layouts

variable (E : Engine V) (S : Fetch V)

lemma hasOn_constraintLink (c : Common V) (j : JoinConstraint) :
    (constraintLink E S c j).hasOn = JoinConstraint.hasOn j := by
  cases j <;> rfl

mutual

lemma layout_factorPlan (c : Common V) :
    (t : TableFactor) → (factorPlan E S c t).layout = factorLayout t
  | .base name arguments alias? hints => by
    simp only [factorPlan, factorLayout, Plan.layout]
    split <;> simp_all
  | .derived .. => rfl
  | .nested inner alias? => congrArg (Layout.nested · alias?) (layout_tablePlan c inner)
  | .other .. => rfl

lemma layout_joinsPlan (c : Common V) (first : Plan V) :
    (js : List Join) → (joinsPlan E S c first js).layout = joinsLayout first.layout js
  | [] => rfl
  | { op, relation, matching, constraint, .. } :: js => by
    rw [joinsPlan, joinsLayout, layout_joinsPlan c _ js, Plan.layout, layout_factorPlan c relation,
      hasOn_constraintLink]

lemma layout_tablePlan (c : Common V) :
    (t : TableWithJoins) → (tablePlan E S c t).layout = tableLayout t
  | { relation, joins } => by
    rw [tablePlan, tableLayout, layout_joinsPlan c _ joins, layout_factorPlan c relation]

end

lemma layout_tablesPlan (c : Common V) (ts : List TableWithJoins) :
    (tablesPlan E S c ts).layout = tablesLayout ts := by
  induction ts with
  | nil => rfl
  | cons t ts ih => rw [tablesPlan, tablesLayout, Plan.layout, layout_tablePlan, ih, Link.hasOn]

end Layouts

def isConstant : Piece → Bool
  | .text _ => true
  | .expr (.value _) => true
  | _ => false

section Within

-- What every FROM clause is asked for, given the view of its query.
variable (fit : View → Layout → Bool)

mutual

def exprWithin (v : View) : Expr → Bool
  | .name _ => true
  | .value _ => true
  | .binary l _ r => exprWithin v l && exprWithin v r
  | .nested e => exprWithin v e
  | .call _ rest => piecesWithin v rest
  | .form pieces => piecesWithin v pieces

def exprsWithin (v : View) : List Expr → Bool
  | [] => true
  | e :: es => exprWithin v e && exprsWithin v es

def optionWithin (v : View) : Option Expr → Bool
  | none => true
  | some e => exprWithin v e

def pieceWithin (v : View) : Piece → Bool
  | .text _ => true
  | .expr e => exprWithin v e
  | .query q => queryWithin v q
  | .table _ => false

def piecesWithin (v : View) : List Piece → Bool
  | [] => true
  | p :: ps => pieceWithin v p && piecesWithin v ps

def factorWithin (v : View) : TableFactor → Bool
  | .base _ arguments _ hints => arguments.isEmpty && hints.isEmpty
  | .derived _ q _ => queryWithin v q
  | .nested inner _ => tableWithin v inner
  | .other .. => false

def constraintWithin (v : View) : JoinConstraint → Bool
  | .on e => exprWithin v e
  | .shared _ => true
  | .natural => true
  | .none => true

def joinsWithin (v : View) : List Join → Bool
  | [] => true
  | { relation, matching, constraint, .. } :: js =>
    factorWithin v relation && optionWithin v matching && constraintWithin v constraint
      && joinsWithin v js

def tableWithin (v : View) : TableWithJoins → Bool
  | { relation, joins } => factorWithin v relation && joinsWithin v joins

def tablesWithin (v : View) : List TableWithJoins → Bool
  | [] => true
  | t :: ts => tableWithin v t && tablesWithin v ts

def ctesWithin (v : View) : List Cte → Bool
  | [] => true
  | { given, query, .. } :: cs =>
    isPlainName given.name && queryWithin v query && ctesWithin (v.withHidden given.name) cs

def keysWithin (v : View) : List OrderKey → Bool
  | [] => true
  | { key, fill, .. } :: ks => exprWithin v key && piecesWithin v fill && keysWithin v ks

/-- No common tables are recursive, and what follows the limit holds neither names nor queries. -/
def queryWithin (v : View) : Query → Bool
  | { recursive, ctes, body, orderBy, interpolate, limit, tail } =>
    !recursive && ctesWithin v ctes && bodyWithin (v.after ctes) body
      && keysWithin (v.after ctes) orderBy && piecesWithin (v.after ctes) interpolate
      && optionWithin (v.after ctes) limit && tail.all isConstant

def bodyWithin (v : View) : Body → Bool
  | .select s => selectWithin v s
  | .setOp l _ _ r => bodyWithin v l && bodyWithin v r
  | .query q => queryWithin v q
  | .rows _ => false
  | .table _ => false
  | .change _ => false

def itemsWithin (v : View) : List SelectItem → Bool
  | [] => true
  | .expr e _ :: is => exprWithin v e && itemsWithin v is
  | .wildcard _ options :: is => piecesWithin v options && itemsWithin v is

def distinctWithin (v : View) : Distinct → Bool
  | .none => true
  | .rows => true
  | .on keys => exprsWithin v keys

def selectWithin (v : View) : Select → Bool
  | { top, distinct, items, tables, views, condition, groupBy, sorting, having, tail, .. } =>
    piecesWithin v top && distinctWithin v distinct && itemsWithin v items && tablesWithin v tables
      && fit v (tablesLayout tables) && views.isEmpty && optionWithin v condition
      && exprsWithin v groupBy && piecesWithin v sorting && optionWithin v having && tail.isEmpty

end

end Within

end RowFence.Meaning
