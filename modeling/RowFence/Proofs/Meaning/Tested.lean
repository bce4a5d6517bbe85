import RowFence.Proofs.Meaning.Layout

/-! Scoping as it shows in the meaning of a query: FROM clauses get tests on tenant columns, and
nothing else changes. -/

namespace RowFence.Meaning

open Sql Scope

variable {V : Type}

/-- What scoping depends on, where these common tables are in scope. -/
def viewOf (p : Policy) (t : TenantId) (c : Common V) : View := ⟨p, t, c.map fun x => ⟨x.1⟩⟩

def takesTests (placement : Placement) (hasOn isBase : Bool) : Bool :=
  isBase && placement = .joinCondition && hasOn

namespace Engine

variable (E : Engine V)

def test (v : View) (place : Occurrence) : Term V where
  label := .other
  value env := E.binary .eq (E.name env (place.qualifier ++ [⟨v.policy.tenantColumn, none⟩]))
    (E.value v.tenant.spelling)

def tests (v : View) (place : Occurrence) : List (Term V) :=
  if v.exempts place.name then [] else [E.test v place]

def both (s t : Term V) : Term V where
  label := .other
  value env := E.binary .and (s.value env) (t.value env)

def extend : Option (Term V) → List (Term V) → Option (Term V)
  | s, [] => s
  | none, t :: ts => extend (some t) ts
  | some s, t :: ts => extend (some (E.both s t)) ts

def extendLink : Link V → List (Term V) → Link V
  | .on s, ts => .on (ts.foldl E.both s)
  | .merge m, _ => .merge m

/-- The link of a join with the tests that it takes on the right table, and the other tests. -/
def divided (placement : Placement) (link : Link V) (isBase : Bool) (tests : List (Term V)) :
    Link V × List (Term V) :=
  if takesTests placement link.hasOn isBase then (E.extendLink link tests, []) else (link, tests)

/-- A FROM clause with the tests that its joins take, and the tests left to the WHERE condition. -/
def tested (v : View) (placement : Placement) : Plan V → Plan V × List (Term V)
  | .unit => (.unit, [])
  | .base place access? => (.base place access?, E.tests v place)
  | .derived lateral query alias? => (.derived lateral query alias?, [])
  | .nested inner alias? =>
    let inner := tested v placement inner
    (.nested inner.1 alias?, inner.2)
  | .join op matching link l r =>
    let left := tested v placement l
    let right := tested v placement r
    let (link, others) := E.divided placement link r.isBase right.2
    (.join op matching link left.1 right.1, left.2 ++ others)

lemma divided_merge (E : Engine V) (placement : Placement) (m : Merge) (isBase : Bool)
    (tests : List (Term V)) : E.divided placement (.merge m) isBase tests = (.merge m, tests) := by
  unfold divided takesTests
  rw [Link.hasOn, Bool.and_false]
  rfl

end Engine

section Conditions

variable (E : Engine V) (S : Fetch V) (c : Common V)

lemma exprTerm_predicates (v : View) (place : Occurrence) :
    (v.predicates place.name place.alias?).map (exprTerm E S c) = E.tests v place := by
  unfold View.predicates Engine.tests
  split
  · rfl
  · rcases place with ⟨name, _ | a⟩ <;> rfl

lemma value_grouped (e : Expr) : (exprTerm E S c (grouped e)).value = (exprTerm E S c e).value := by
  unfold grouped
  split
  · rfl
  · split <;> rfl

lemma exprTerm_conjoin (e pred : Expr) :
    exprTerm E S c (conjoin e pred) = E.both (exprTerm E S c e) (exprTerm E S c pred) := by
  rw [conjoin, exprTerm, value_grouped]
  rfl

lemma exprTerm_foldl_conjoin (preds : List Expr) (e : Expr) :
    exprTerm E S c (preds.foldl conjoin e) =
      (preds.map (exprTerm E S c)).foldl E.both (exprTerm E S c e) := by
  induction preds generalizing e with
  | nil => rfl
  | cons pred preds ih => rw [List.foldl_cons, ih, exprTerm_conjoin, List.map_cons, List.foldl_cons]

lemma optionTerm_extended (preds : List Expr) (e? : Option Expr) :
    optionTerm E S c (extended e? preds) =
      E.extend (optionTerm E S c e?) (preds.map (exprTerm E S c)) := by
  induction preds generalizing e? with
  | nil => cases e? <;> rfl
  | cons pred preds ih =>
    cases e? with
    | none => rw [extended, ih]; rfl
    | some e =>
      rw [extended, ih, optionTerm, exprTerm_conjoin]
      rfl

lemma isBase_factorPlan (x : TableFactor) : (factorPlan E S c x).isBase = isBase x := by
  cases x <;> rfl

lemma divided_placed (placement : Placement) (x : TableFactor) (j : JoinConstraint)
    (preds : List Expr) :
    let out := if isBase x then placed placement j preds else (j, preds)
    (constraintLink E S c out.1, out.2.map (exprTerm E S c)) =
      E.divided placement (constraintLink E S c j) (isBase x) (preds.map (exprTerm E S c)) := by
  unfold Engine.divided takesTests
  rw [hasOn_constraintLink]
  cases isBase x with
  | false => rfl
  | true =>
    cases placement with
    | statement => cases j <;> rfl
    | joinCondition =>
      cases j with
      | on e =>
        simp only [if_true, placed, constraintLink, exprTerm_foldl_conjoin]
        rfl
      | shared columns => rfl
      | natural => rfl
      | none => rfl

end Conditions

end RowFence.Meaning
