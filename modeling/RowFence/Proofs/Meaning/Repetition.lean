import Mathlib.Data.List.Forall2
import RowFence.Proofs.Meaning.Writes
import RowFence.Proofs.Scope.Rescoping

/-! Scoping a scoped statement again conjoins the same predicates to the same conditions once more,
which makes no difference to what these say or to what the statement means. -/

namespace RowFence.Meaning

open Sql Scope

variable {V : Type}

section Verdicts

lemma conjunction_true (b : Option Bool) : conjunction (some true) b = b := by
  rcases b with _ | _ | _ <;> rfl

lemma conjunction_assoc (a b c : Option Bool) :
    conjunction (conjunction a b) c = conjunction a (conjunction b c) := by
  rcases a with _ | _ | _ <;> rcases b with _ | _ | _ <;> rcases c with _ | _ | _ <;> rfl

lemma conjunction_self (a : Option Bool) : conjunction a a = a := by
  rcases a with _ | _ | _ <;> rfl

variable (E : Engine V)

/-- What a condition says of a row. A missing condition is true. -/
def Engine.verdict : Option (Term V) → Env V → Option Bool
  | none, _ => some true
  | some t, env => E.truth (t.value env)

def Engine.verdicts (ts : List (Term V)) (env : Env V) : Option Bool :=
  ts.foldr (fun t b => conjunction (E.truth (t.value env)) b) (some true)

lemma verdict_extend (condition : Option (Term V)) (ts : List (Term V)) (env : Env V) :
    E.verdict (E.extend condition ts) env =
      conjunction (E.verdict condition env) (E.verdicts ts env) := by
  induction ts generalizing condition with
  | nil =>
    have hright : conjunction (E.verdict condition env) (some true) = E.verdict condition env := by
      rcases E.verdict condition env with _ | _ | _ <;> rfl
    cases condition <;> exact hright.symm
  | cons t ts ih =>
    have hcons : E.verdicts (t :: ts) env =
        conjunction (E.truth (t.value env)) (E.verdicts ts env) := rfl
    cases condition with
    | none =>
      rw [Engine.extend, ih, hcons]
      exact (conjunction_true _).symm
    | some s =>
      rw [Engine.extend, ih, hcons, ← conjunction_assoc]
      exact congrArg (conjunction · _) (E.truth_and _ _)

lemma verdict_extend_extend (condition : Option (Term V)) (ts : List (Term V)) (env : Env V) :
    E.verdict (E.extend (E.extend condition ts) ts) env = E.verdict (E.extend condition ts) env := by
  rw [verdict_extend, verdict_extend, conjunction_assoc, conjunction_self]

lemma holds_eq_verdict (condition : Option (Term V)) (env : Env V) :
    E.holds condition env = (E.verdict condition env == some true) := by
  cases condition <;> rfl

lemma extend_some (s : Term V) (ts : List (Term V)) :
    E.extend (some s) ts = some (ts.foldl E.both s) := by
  induction ts generalizing s with
  | nil => rfl
  | cons t ts ih => rw [Engine.extend, ih, List.foldl_cons]

lemma truth_foldl_foldl (s : Term V) (ts : List (Term V)) (env : Env V) :
    E.truth ((ts.foldl E.both (ts.foldl E.both s)).value env) =
      E.truth ((ts.foldl E.both s).value env) := by
  have h := verdict_extend_extend E (some s) ts env
  rwa [extend_some, extend_some] at h

end Verdicts

section Sources

variable (E : Engine V) (D : Store V) (c : Common V)

/-- Links that join the same rows. -/
structure LinksAlike (link link' : Link V) : Prop where
  links (env : Env V) (op : JoinOp) : E.links env op link = E.links env op link'
  merged : link.merged = link'.merged

lemma joined_of_linksAlike {link link' : Link V} (h : LinksAlike E link link') (env : Env V)
    (op : JoinOp) (first : Source V) (second : Frame V → Source V) (matching : Option (Term V)) :
    E.joined env op link first second matching = E.joined env op link' first second matching := by
  have hlinks := h.links env op
  have hhits : E.hits env op link second = E.hits env op link' second := by
    funext l
    rw [Engine.hits, hlinks, Engine.hits]
  have hhit : E.isHit env op link first = E.isHit env op link' first := by
    funext r
    rw [Engine.isHit, hlinks, Engine.isHit]
  have hlone : E.lone env op link first second = E.lone env op link' first second := by
    rw [Engine.lone, hhit, h.merged, Engine.lone]
  unfold Engine.joined pairs
  rw [hhits, hhit, hlone, h.merged]

/-- FROM clauses that yield the same rows. -/
def PlansAlike (plan plan' : Plan V) : Prop :=
  ∀ env left, E.source D c env plan left = E.source D c env plan' left

variable {E D c} {plan plan' right right' : Plan V}

lemma PlansAlike.nested (h : PlansAlike E D c plan plan') (alias? : Option TableAlias) :
    PlansAlike E D c (.nested plan alias?) (.nested plan' alias?) := by
  intro env left
  cases alias? with
  | none => exact h env left
  | some a => simp only [Engine.source, h env left]

lemma PlansAlike.join (hleft : PlansAlike E D c plan plan') (hright : PlansAlike E D c right right')
    {link link' : Link V} (hlink : LinksAlike E link link') (op : JoinOp)
    (matching : Option (Term V)) :
    PlansAlike E D c (.join op matching link plan right) (.join op matching link' plan' right') := by
  intro env left
  have hsecond : ∀ f, E.source D c env right f = E.source D c env right' f := hright env
  rw [Engine.source, Engine.source, hleft env left, joined_of_linksAlike E hlink]
  simp only [hsecond]

lemma PlansAlike.fetch (h : PlansAlike E D c plan plan') {condition condition' : Option (Term V)}
    (hverdict : ∀ env, E.verdict condition env = E.verdict condition' env) (env : Env V) :
    E.fetch D c env plan condition = E.fetch D c env plan' condition' := by
  simp only [Engine.fetch, h env, holds_eq_verdict, hverdict]

end Sources

section Conditions

variable (E : Engine V) (S : Fetch V) (c : Common V) (v : View)

lemma scopeExpr_of_mem_predicatesFor {places : List Occurrence} {p : Expr}
    (h : p ∈ v.predicatesFor places) : (scopeExpr v p).value = p := by
  obtain ⟨⟨name, alias?⟩, -, rfl⟩ := List.mem_map.mp h
  cases alias? <;> rfl

lemma value_scoped_grouped (e : Expr) : (exprTerm E S c (scopeExpr v (grouped e)).value).value =
    (exprTerm E S c (scopeExpr v e).value).value := by
  unfold grouped
  split
  · rfl
  · split <;> rfl

lemma exprTerm_scoped_conjoin (e pred : Expr) :
    exprTerm E S c (scopeExpr v (conjoin e pred)).value =
      E.both (exprTerm E S c (scopeExpr v e).value) (exprTerm E S c (scopeExpr v pred).value) := by
  rw [conjoin, scopeExpr, Counted.value_bind, Counted.value_bind, Counted.value_pure, exprTerm,
    value_scoped_grouped]
  rfl

variable {v} {preds : List Expr} (hpreds : ∀ p ∈ preds, (scopeExpr v p).value = p)
include hpreds

lemma exprTerm_scoped_foldl_conjoin (e : Expr) :
    exprTerm E S c (scopeExpr v (preds.foldl conjoin e)).value =
      (preds.map (exprTerm E S c)).foldl E.both (exprTerm E S c (scopeExpr v e).value) := by
  induction preds generalizing e with
  | nil => rfl
  | cons pred preds ih =>
    obtain ⟨hpred, hrest⟩ := List.forall_mem_cons.mp hpreds
    rw [List.foldl_cons, ih hrest, exprTerm_scoped_conjoin, hpred, List.map_cons, List.foldl_cons]

lemma optionTerm_scoped_extended (e? : Option Expr) :
    optionTerm E S c (scopeOption v (extended e? preds)).value =
      E.extend (optionTerm E S c (scopeOption v e?).value) (preds.map (exprTerm E S c)) := by
  cases e? with
  | some e =>
    rw [extended_some]
    exact (congrArg some (exprTerm_scoped_foldl_conjoin E S c hpreds e)).trans
      (extend_some E _ _).symm
  | none =>
    cases preds with
    | nil => rfl
    | cons pred preds =>
      obtain ⟨hpred, hrest⟩ := List.forall_mem_cons.mp hpreds
      have hterm := exprTerm_scoped_foldl_conjoin E S c hrest pred
      rw [hpred] at hterm
      rw [extended, extended_some]
      exact (congrArg some hterm).trans (extend_some E _ _).symm

/-- What is conjoined to a condition once more does not change what it says, if scoping its queries
once more does not. -/
lemma verdict_extended_twice {e? : Option Expr}
    (h : optionTerm E S c (scopeOption v e?).value = optionTerm E S c e?) (env : Env V) :
    E.verdict (optionTerm E S c (extended (scopeOption v (extended e? preds)).value preds)) env =
      E.verdict (optionTerm E S c (extended e? preds)) env := by
  rw [optionTerm_extended, optionTerm_scoped_extended E S c hpreds, h, verdict_extend_extend,
    optionTerm_extended]

lemma linksAlike_extendedOn_twice {j : JoinConstraint}
    (h : constraintLink E S c (scopeConstraint v j).value = constraintLink E S c j) :
    LinksAlike E
      (constraintLink E S c (extendedOn preds (scopeConstraint v (extendedOn preds j)).value))
      (constraintLink E S c (extendedOn preds j)) := by
  cases j with
  | on e =>
    have he : exprTerm E S c (scopeExpr v e).value = exprTerm E S c e := Link.on.inj h
    refine ⟨fun env op => ?_, rfl⟩
    funext l r
    have htruth := truth_foldl_foldl E (exprTerm E S c e) (preds.map (exprTerm E S c))
      (⟨.join op .nothing l r, []⟩ :: env)
    simp only [extendedOn, scopeConstraint, Counted.value_bind, Counted.value_pure, constraintLink,
      exprTerm_foldl_conjoin, exprTerm_scoped_foldl_conjoin E S c hpreds, he, Engine.links,
      Engine.isTrue, htruth]
  | _ => exact ⟨fun _ _ => rfl, rfl⟩

end Conditions

section Twice

variable (E : Engine V) (D : Store V)

mutual

lemma exprTerm_twice (c : Common V) (v : View) : (e : Expr) →
    exprTerm E (E.fetch D) c (scopeExpr v (scopeExpr v e).value).value =
      exprTerm E (E.fetch D) c (scopeExpr v e).value
  | .name _ => rfl
  | .value _ => rfl
  | .binary l op r => by
    simp only [scopeExpr, Counted.value_bind, Counted.value_pure, exprTerm, exprTerm_twice c v l,
      exprTerm_twice c v r]
  | .nested e => by
    simp only [scopeExpr, Counted.value_bind, Counted.value_pure, exprTerm, exprTerm_twice c v e]
  | .call f rest => by
    simp only [scopeExpr, Counted.value_bind, Counted.value_pure, exprTerm,
      pieceParts_twice c v rest]
  | .form pieces => by
    simp only [scopeExpr, Counted.value_bind, Counted.value_pure, exprTerm,
      pieceParts_twice c v pieces]

lemma exprTerms_twice (c : Common V) (v : View) : (es : List Expr) →
    exprTerms E (E.fetch D) c (scopeExprs v (scopeExprs v es).value).value =
      exprTerms E (E.fetch D) c (scopeExprs v es).value
  | [] => rfl
  | e :: es => by
    simp only [scopeExprs, Counted.value_bind, Counted.value_pure, exprTerms, exprTerm_twice c v e,
      exprTerms_twice c v es]

lemma optionTerm_twice (c : Common V) (v : View) : (e? : Option Expr) →
    optionTerm E (E.fetch D) c (scopeOption v (scopeOption v e?).value).value =
      optionTerm E (E.fetch D) c (scopeOption v e?).value
  | none => rfl
  | some e => congrArg some (exprTerm_twice c v e)

lemma piecePart_twice (c : Common V) (v : View) : (p : Piece) →
    piecePart E (E.fetch D) c (scopePiece v (scopePiece v p).value).value =
      piecePart E (E.fetch D) c (scopePiece v p).value
  | .text _ => rfl
  | .expr e => congrArg Part.term (exprTerm_twice c v e)
  | .query q =>
    congrArg Part.query (funext fun env => congrArg Answer.table (queryAnswer_twice c v q env))
  | .table t => congrArg Part.table (factorPlan_inner_twice c v t)

lemma pieceParts_twice (c : Common V) (v : View) : (ps : List Piece) →
    pieceParts E (E.fetch D) c (scopePieces v (scopePieces v ps).value).value =
      pieceParts E (E.fetch D) c (scopePieces v ps).value
  | [] => rfl
  | p :: ps => by
    simp only [scopePieces, Counted.value_bind, Counted.value_pure, pieceParts,
      piecePart_twice c v p, pieceParts_twice c v ps]

lemma factorPlan_inner_twice (c : Common V) (v : View) : (t : TableFactor) →
    factorPlan E (E.fetch D) c (scopeInner v (scopeInner v t).value).value =
      factorPlan E (E.fetch D) c (scopeInner v t).value
  | .base name arguments alias? hints => by
    simp only [scopeInner, Counted.value_bind, Counted.value_pure, factorPlan, isEmpty_scopePieces,
      pieceParts_twice c v arguments, pieceParts_twice c v hints]
  | .derived .. => rfl
  | .nested inner alias? => congrArg (Plan.nested · alias?) (tablePlan_inner_twice c v inner)
  | .other pieces alias? tail => by
    simp only [scopeInner, Counted.value_bind, Counted.value_pure, factorPlan,
      pieceParts_twice c v pieces, pieceParts_twice c v tail]

lemma constraintLink_twice (c : Common V) (v : View) : (j : JoinConstraint) →
    constraintLink E (E.fetch D) c (scopeConstraint v (scopeConstraint v j).value).value =
      constraintLink E (E.fetch D) c (scopeConstraint v j).value
  | .on e => congrArg Link.on (exprTerm_twice c v e)
  | .shared _ => rfl
  | .natural => rfl
  | .none => rfl

lemma joinsPlan_inner_twice (c : Common V) (v : View) (first : Plan V) : (js : List Join) →
    joinsPlan E (E.fetch D) c first (scopeInnerJoins v (scopeInnerJoins v js).value).value =
      joinsPlan E (E.fetch D) c first (scopeInnerJoins v js).value
  | [] => rfl
  | { isGlobal, op, relation, matching, constraint } :: js => by
    simp only [scopeInnerJoins, Counted.value_bind, Counted.value_pure, joinsPlan,
      factorPlan_inner_twice c v relation, optionTerm_twice c v matching,
      constraintLink_twice c v constraint, joinsPlan_inner_twice c v _ js]

lemma tablePlan_inner_twice (c : Common V) (v : View) : (t : TableWithJoins) →
    tablePlan E (E.fetch D) c (scopeInnerTable v (scopeInnerTable v t).value).value =
      tablePlan E (E.fetch D) c (scopeInnerTable v t).value
  | { relation, joins } => by
    simp only [scopeInnerTable, Counted.value_bind, Counted.value_pure, tablePlan,
      factorPlan_inner_twice c v relation, joinsPlan_inner_twice c v _ joins]

lemma factorPlan_twice (c : Common V) (v : View) (placement : Placement) : (t : TableFactor) →
    PlansAlike E D c
      (factorPlan E (E.fetch D) c
        (scopeFactor v placement (scopeFactor v placement t).value.1).value.1)
      (factorPlan E (E.fetch D) c (scopeFactor v placement t).value.1)
  | .base name arguments alias? hints => by
    simp only [scopeFactor, Counted.value_bind, Counted.value_pure, factorPlan, isEmpty_scopePieces,
      pieceParts_twice c v arguments, pieceParts_twice c v hints]
    exact fun _ _ => rfl
  | .derived lateral q alias? => by
    have hq : ∀ env, queryAnswer E (E.fetch D) c (scopeQuery v (scopeQuery v q).value).value env =
        queryAnswer E (E.fetch D) c (scopeQuery v q).value env := queryAnswer_twice c v q
    simp only [scopeFactor, Counted.value_bind, Counted.value_pure, factorPlan, hq]
    exact fun _ _ => rfl
  | .nested inner alias? => (tablePlan_twice c v placement inner).nested alias?
  | .other pieces alias? tail => by
    simp only [scopeFactor, Counted.value_bind, Counted.value_pure, factorPlan,
      pieceParts_twice c v pieces, pieceParts_twice c v tail]
    exact fun _ _ => rfl

lemma joinsPlan_twice (c : Common V) (v : View) (placement : Placement) {first first' : Plan V}
    (hfirst : PlansAlike E D c first first') : (js : List Join) →
    PlansAlike E D c
      (joinsPlan E (E.fetch D) c first
        (scopeJoins v placement (scopeJoins v placement js).value.1).value.1)
      (joinsPlan E (E.fetch D) c first' (scopeJoins v placement js).value.1)
  | [] => hfirst
  | { isGlobal, op, relation, matching, constraint } :: js => by
    -- The ON has the predicates twice, so the plans are not equal and only their rows are.
    have hpreds (p : Expr) : p ∈ v.predicatesFor (onTables (some placement) relation) →
        (scopeExpr v p).value = p := scopeExpr_of_mem_predicatesFor v
    have hlink := linksAlike_extendedOn_twice E (E.fetch D) c hpreds
      (constraintLink_twice c v constraint)
    simp only [scopeJoins, Counted.value_bind, Counted.value_pure, joinsPlan,
      (placed_scopeFactor v placement relation _).1,
      (placed_scopeFactor v placement (scopeFactor v placement relation).value.1 _).1,
      onTables_scopeFactor, optionTerm_twice c v matching]
    exact joinsPlan_twice c v placement
      (hfirst.join (factorPlan_twice c v placement relation) hlink op _) js

lemma tablePlan_twice (c : Common V) (v : View) (placement : Placement) : (t : TableWithJoins) →
    PlansAlike E D c
      (tablePlan E (E.fetch D) c
        (scopeTable v placement (scopeTable v placement t).value.1).value.1)
      (tablePlan E (E.fetch D) c (scopeTable v placement t).value.1)
  | { relation, joins } =>
    joinsPlan_twice c v placement (factorPlan_twice c v placement relation) joins

lemma tablesPlan_twice (c : Common V) (v : View) (placement : Placement) :
    (ts : List TableWithJoins) →
    PlansAlike E D c
      (tablesPlan E (E.fetch D) c
        (scopeTables v placement (scopeTables v placement ts).value.1).value.1)
      (tablesPlan E (E.fetch D) c (scopeTables v placement ts).value.1)
  | [] => fun _ _ => rfl
  | t :: ts => (tablePlan_twice c v placement t).join (tablesPlan_twice c v placement ts)
      ⟨fun _ _ => rfl, rfl⟩ .cross none

lemma cteTables_twice (c : Common V) (v : View) (env : Env V) : (cs : List Cte) →
    cteTables E (E.fetch D) c (scopeCtes v (scopeCtes v cs).value.1).value.1 env =
      cteTables E (E.fetch D) c (scopeCtes v cs).value.1 env
  | [] => rfl
  | { given, query, source?, materialized } :: cs => by
    simp only [scopeCtes, Counted.value_bind, Counted.value_pure, cteTables,
      queryAnswer_twice c v query env]
    exact cteTables_twice _ (v.withHidden given.name) env cs

lemma sortKeys_twice (c : Common V) (v : View) : (ks : List OrderKey) →
    sortKeys E (E.fetch D) c (scopeKeys v (scopeKeys v ks).value).value =
      sortKeys E (E.fetch D) c (scopeKeys v ks).value
  | [] => rfl
  | { key, direction, fill } :: ks => by
    simp only [scopeKeys, Counted.value_bind, Counted.value_pure, sortKeys, exprTerm_twice c v key,
      pieceParts_twice c v fill, sortKeys_twice c v ks]

lemma queryAnswer_twice (c : Common V) (v : View) : (q : Query) → (env : Env V) →
    queryAnswer E (E.fetch D) c (scopeQuery v (scopeQuery v q).value).value env =
      queryAnswer E (E.fetch D) c (scopeQuery v q).value env
  | { recursive, ctes, body, orderBy, interpolate, limit, tail }, env => by
    obtain ⟨hafter, -⟩ := after_scopeCtes v ctes
    simp only [scopeQuery, Counted.value_bind, Counted.value_pure, queryAnswer,
      (after_scopeCtes v _).2, hafter, cteTables_twice c v env ctes,
      bodyAnswer_twice _ (v.after ctes) body env, sortKeys_twice _ (v.after ctes) orderBy,
      pieceParts_twice _ (v.after ctes) interpolate, optionTerm_twice _ (v.after ctes) limit]

lemma bodyAnswer_twice (c : Common V) (v : View) : (b : Body) → (env : Env V) →
    bodyAnswer E (E.fetch D) c (scopeBody v (scopeBody v b).value).value env =
      bodyAnswer E (E.fetch D) c (scopeBody v b).value env
  | .select s, env => selectAnswer_twice c v s env
  | .setOp l op quantifier r, env => by
    simp only [scopeBody, Counted.value_bind, Counted.value_pure, bodyAnswer,
      bodyAnswer_twice c v l env, bodyAnswer_twice c v r env]
  | .query q, env => queryAnswer_twice c v q env
  | .rows _, _ => rfl
  | .table _, _ => rfl
  | .change _, _ => rfl

lemma selectItems_twice (c : Common V) (v : View) : (is : List SelectItem) →
    selectItems E (E.fetch D) c (scopeItems v (scopeItems v is).value).value =
      selectItems E (E.fetch D) c (scopeItems v is).value
  | [] => rfl
  | .expr e alias? :: is => by
    simp only [scopeItems, Counted.value_bind, Counted.value_pure, selectItems,
      exprTerm_twice c v e, selectItems_twice c v is]
  | .wildcard qualifier options :: is => by
    simp only [scopeItems, Counted.value_bind, Counted.value_pure, selectItems,
      pieceParts_twice c v options, selectItems_twice c v is]

lemma distinctness_twice (c : Common V) (v : View) : (d : Distinct) →
    distinctness E (E.fetch D) c (scopeDistinct v (scopeDistinct v d).value).value =
      distinctness E (E.fetch D) c (scopeDistinct v d).value
  | .none => rfl
  | .rows => rfl
  | .on keys => congrArg Distinctness.on (exprTerms_twice c v keys)

lemma selectAnswer_twice (c : Common V) (v : View) : (s : Select) → (env : Env V) →
    selectAnswer E (E.fetch D) c (scopeSelect v (scopeSelect v s).value).value env =
      selectAnswer E (E.fetch D) c (scopeSelect v s).value env
  | { top, topFirst, distinct, items, into, tables, views, condition, groupAll, groupBy,
      groupModifiers, sorting, having, tail }, env => by
    have hpreds (p : Expr) :
        p ∈ v.predicatesFor ((tablesLayout tables).remaining .joinCondition) →
          (scopeExpr v p).value = p := scopeExpr_of_mem_predicatesFor v
    have hverdict := verdict_extended_twice E (E.fetch D) c hpreds (optionTerm_twice c v condition)
    have htables := tablesPlan_twice c v .joinCondition tables
    simp only [scopeSelect, Counted.value_bind, Counted.value_pure, selectAnswer,
      predicatesFor_scopeTables, layout_scopeTables, htables.fetch hverdict env,
      pieceParts_twice c v top, distinctness_twice c v distinct, selectItems_twice c v items,
      pieceParts_twice c v views, exprTerms_twice c v groupBy, pieceParts_twice c v sorting,
      optionTerm_twice c v having, pieceParts_twice c v tail]

end

end Twice

/-- Conditions that say the same of every row, over every database and whatever is in scope. -/
def Equivalent (a b : Option Expr) : Prop :=
  ∀ (V : Type) (E : Engine V) (D : Store V) (c : Common V) (env : Env V),
    E.verdict (optionTerm E (E.fetch D) c a) env = E.verdict (optionTerm E (E.fetch D) c b) env

section Equivalence

mutual

lemma conditions_scoped_twice (v : View) : (s : SlotTree) →
    List.Forall₂ Equivalent ((s.scoped v).scoped v).conditions (s.scoped v).conditions
  | .slot condition places => by
    have hpreds (p : Expr) : p ∈ v.predicatesFor places → (scopeExpr v p).value = p :=
      scopeExpr_of_mem_predicatesFor v
    simp only [SlotTree.scoped, SlotTree.conditions]
    refine .cons (fun V E D c env => ?_) .nil
    exact verdict_extended_twice E (E.fetch D) c hpreds (optionTerm_twice E D c v condition) env
  | .query ctes clauses => by
    simp only [SlotTree.scoped, SlotTree.conditions, beyond_scopedCtes]
    exact List.rel_append (cteConditions_scoped_twice v ctes)
      (conditionsOf_scoped_twice (v.beyond ctes) clauses)

lemma conditionsOf_scoped_twice (v : View) : (ss : List SlotTree) →
    List.Forall₂ Equivalent (conditionsOf (scopedSlots v (scopedSlots v ss)))
      (conditionsOf (scopedSlots v ss))
  | [] => .nil
  | s :: ss => by
    simp only [scopedSlots, conditionsOf]
    exact List.rel_append (conditions_scoped_twice v s) (conditionsOf_scoped_twice v ss)

lemma cteConditions_scoped_twice (v : View) : (cs : List CteSlots) →
    List.Forall₂ Equivalent (cteConditions (scopedCtes v (scopedCtes v cs)))
      (cteConditions (scopedCtes v cs))
  | [] => .nil
  | { given, query } :: cs => by
    simp only [scopedCtes, cteConditions]
    exact List.rel_append (conditions_scoped_twice v query)
      (cteConditions_scoped_twice (v.withHidden given) cs)

end

end Equivalence

/-- The joined rows that an UPDATE or DELETE goes through, which are those for which its condition is
true. -/
def Engine.written (E : Engine V) (D : Store V) (s : Statement) : Option (Source V) :=
  (Statement.joins? s).map fun joins =>
    E.fetch D [] [] (tablesPlan E (E.fetch D) [] joins.1) (optionTerm E (E.fetch D) [] joins.2)

def Statement.assignments : Statement → List Piece
  | .update u => u.assignments
  | _ => []

/-- Queries with the same result, and row changes that go through the same rows with the same
values. -/
def MeansAs (s s' : Statement) : Prop :=
  ∀ (V : Type) (E : Engine V) (D : Store V), E.result D s = E.result D s' ∧
    E.written D s = E.written D s' ∧
    pieceParts E (E.fetch D) [] (Statement.assignments s) =
      pieceParts E (E.fetch D) [] (Statement.assignments s')

section Statements

lemma joins_of_none {v : View} {s : Statement} (h : Statement.joins? s = none) :
    Statement.joins? (scopeStatement v s).value = none := by
  cases s with
  | query q => rfl
  | update u => exact nomatch h
  | delete d => exact nomatch h
  | other pieces => rfl

lemma written_twice (E : Engine V) (D : Store V) (v : View) (s : Statement) :
    E.written D (scopeStatement v (scopeStatement v s).value).value =
      E.written D (scopeStatement v s).value := by
  cases h : Statement.joins? s with
  | none =>
    have honce := joins_of_none (v := v) h
    rw [Engine.written, Engine.written, joins_of_none honce, honce]
  | some joins =>
    obtain ⟨tables, condition⟩ := joins
    have honce := joins_scopeStatement v h
    have hpreds (p : Expr) : p ∈ v.predicatesFor ((tablesLayout tables).remaining .statement) →
        (scopeExpr v p).value = p := scopeExpr_of_mem_predicatesFor v
    have hverdict := verdict_extended_twice E (E.fetch D) [] hpreds
      (optionTerm_twice E D [] v condition)
    have htables := tablesPlan_twice E D [] v .statement tables
    rw [Engine.written, Engine.written, joins_scopeStatement v honce, honce, Option.map_some,
      Option.map_some]
    simp only [predicatesFor_scopeTables, layout_scopeTables, htables.fetch hverdict []]

lemma meansAs_twice (v : View) (s : Statement) :
    MeansAs (scopeStatement v (scopeStatement v s).value).value (scopeStatement v s).value := by
  intro V E D
  refine ⟨?_, written_twice E D v s, ?_⟩
  · cases s with
    | query q =>
      exact congrArg (fun a : Answer V => some a.table) (queryAnswer_twice E D [] v q [])
    | _ => rfl
  · cases s with
    | update u => exact pieceParts_twice E D [] v u.assignments
    | _ => rfl

lemma meansAs_scopeStatements_twice (v : View) (ss : List Statement) :
    List.Forall₂ MeansAs (scopeStatements v (scopeStatements v ss).value).value
      (scopeStatements v ss).value := by
  rw [value_scopeStatements, value_scopeStatements, List.forall₂_map_left_iff, List.forall₂_same,
    List.forall_mem_map]
  exact fun s _ => meansAs_twice v s

end Statements

/-- Scoping scoped statements again puts the same predicates into the same slots and does nothing
else, so that each condition says what it said after the first time, and each statement means what
it meant. -/
theorem scopedStatements_twice (p : Policy) (tenant : TenantId) (ss : List Statement) :
    let once := p.scopedStatements tenant ss
    let twice := p.scopedStatements tenant once.value
    let predicates := inserted p.tenantColumn tenant
      (insertionsOf ⟨p, tenant, []⟩ (statementsSlots ss))
    fillStatements ss predicates = some (once.value, []) ∧
      fillStatements once.value predicates = some (twice.value, []) ∧
      twice.added = once.added ∧
      List.Forall₂ Equivalent (conditionsOf (statementsSlots twice.value))
        (conditionsOf (statementsSlots once.value)) ∧
      List.Forall₂ MeansAs twice.value once.value := by
  intro once twice predicates
  have honce : statementsSlots once.value = scopedSlots ⟨p, tenant, []⟩ (statementsSlots ss) :=
    statementsSlots_scopeStatements _ ss
  have htwice : statementsSlots twice.value =
      scopedSlots ⟨p, tenant, []⟩ (statementsSlots once.value) :=
    statementsSlots_scopeStatements _ once.value
  have hsame : insertionsOf ⟨p, tenant, []⟩ (statementsSlots once.value) =
      insertionsOf ⟨p, tenant, []⟩ (statementsSlots ss) := by
    rw [honce, insertionsOf_scopedSlots]
  obtain ⟨hfirst, hcount⟩ := fillStatements_scopedStatements p tenant ss
  obtain ⟨hsecond, hcount'⟩ := fillStatements_scopedStatements p tenant once.value
  rw [hsame] at hsecond hcount'
  refine ⟨hfirst, hsecond, hcount'.trans hcount.symm, ?_, meansAs_scopeStatements_twice _ ss⟩
  rw [htwice, honce]
  exact conditionsOf_scoped_twice _ _

end RowFence.Meaning
