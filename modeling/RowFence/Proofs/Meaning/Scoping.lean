import RowFence.Proofs.Meaning.Tested

/-! A scoped query means what the query itself means, where FROM clauses are read with their
tests. -/

namespace RowFence.Meaning

open Sql Scope

variable {V : Type} (E : Engine V)

lemma withHidden_viewOf (p : Policy) (t : TenantId) (c : Common V) (name : Ident)
    (table : Table V) (h : isPlainName name = true) :
    (viewOf p t c).withHidden name = viewOf p t (c ++ [(name.folded, table)]) := by
  simp only [viewOf, View.withHidden, List.map_append, List.map_cons, List.map_nil,
    TableName.ofReference_value h]

lemma pieceParts_constant (σ τ : Fetch V) (c : Common V) (ps : List Piece)
    (h : ps.all isConstant = true) : pieceParts E σ c ps = pieceParts E τ c ps := by
  induction ps with
  | nil => rfl
  | cons p ps ih =>
    rw [List.all_cons, Bool.and_eq_true] at h
    have hp : piecePart E σ c p = piecePart E τ c p := by
      match p, h.1 with
      | .text _, _ => rfl
      | .expr (.value _), _ => rfl
    rw [pieceParts, pieceParts, hp, ih h.2]

/-- Over FROM clauses with tests, `σ` yields what `τ` yields over the clauses as they are given. -/
def Imitates (σ τ : Fetch V) (fit : View → Layout → Bool) (p : Policy) (t : TenantId) : Prop :=
  ∀ c env plan condition, fit (viewOf p t c) plan.layout = true →
    σ c env (E.tested (viewOf p t c) .joinCondition plan).1
      (E.extend condition (E.tested (viewOf p t c) .joinCondition plan).2) =
    τ c env plan condition

section

variable {E} {σ τ : Fetch V} {fit : View → Layout → Bool} {p : Policy} {t : TenantId}

mutual

lemma exprTerm_scoped (h : Imitates E σ τ fit p t) (c : Common V) :
    (e : Expr) → exprWithin fit (viewOf p t c) e = true →
      exprTerm E σ c (scopeExpr (viewOf p t c) e).value = exprTerm E τ c e
  | .name _, _ => rfl
  | .value _, _ => rfl
  | .binary l op r, hw => by
    rw [exprWithin, Bool.and_eq_true] at hw
    simp only [scopeExpr, Counted.value_bind, Counted.value_pure, exprTerm,
      exprTerm_scoped h c l hw.1, exprTerm_scoped h c r hw.2]
  | .nested e, hw => by
    simp only [scopeExpr, Counted.value_bind, Counted.value_pure, exprTerm, exprTerm_scoped h c e hw]
  | .call f rest, hw => by
    simp only [scopeExpr, Counted.value_bind, Counted.value_pure, exprTerm,
      pieceParts_scoped h c rest hw]
  | .form pieces, hw => by
    simp only [scopeExpr, Counted.value_bind, Counted.value_pure, exprTerm,
      pieceParts_scoped h c pieces hw]

lemma exprTerms_scoped (h : Imitates E σ τ fit p t) (c : Common V) :
    (es : List Expr) → exprsWithin fit (viewOf p t c) es = true →
      exprTerms E σ c (scopeExprs (viewOf p t c) es).value = exprTerms E τ c es
  | [], _ => rfl
  | e :: es, hw => by
    rw [exprsWithin, Bool.and_eq_true] at hw
    simp only [scopeExprs, Counted.value_bind, Counted.value_pure, exprTerms,
      exprTerm_scoped h c e hw.1, exprTerms_scoped h c es hw.2]

lemma optionTerm_scoped (h : Imitates E σ τ fit p t) (c : Common V) :
    (e? : Option Expr) → optionWithin fit (viewOf p t c) e? = true →
      optionTerm E σ c (scopeOption (viewOf p t c) e?).value = optionTerm E τ c e?
  | none, _ => rfl
  | some e, hw => congrArg some (exprTerm_scoped h c e hw)

lemma piecePart_scoped (h : Imitates E σ τ fit p t) (c : Common V) :
    (x : Piece) → pieceWithin fit (viewOf p t c) x = true →
      piecePart E σ c (scopePiece (viewOf p t c) x).value = piecePart E τ c x
  | .text _, _ => rfl
  | .expr e, hw => congrArg Part.term (exprTerm_scoped h c e hw)
  | .query q, hw =>
    congrArg Part.query (funext fun env => congrArg Answer.table (queryAnswer_scoped h c q env hw))

lemma pieceParts_scoped (h : Imitates E σ τ fit p t) (c : Common V) :
    (xs : List Piece) → piecesWithin fit (viewOf p t c) xs = true →
      pieceParts E σ c (scopePieces (viewOf p t c) xs).value = pieceParts E τ c xs
  | [], _ => rfl
  | x :: xs, hw => by
    rw [piecesWithin, Bool.and_eq_true] at hw
    simp only [scopePieces, Counted.value_bind, Counted.value_pure, pieceParts,
      piecePart_scoped h c x hw.1, pieceParts_scoped h c xs hw.2]

lemma constraintLink_scoped (h : Imitates E σ τ fit p t) (c : Common V) :
    (j : JoinConstraint) → constraintWithin fit (viewOf p t c) j = true →
      constraintLink E σ c (scopeConstraint (viewOf p t c) j).value = constraintLink E τ c j
  | .on e, hw => congrArg Link.on (exprTerm_scoped h c e hw)
  | .shared _, _ => rfl
  | .natural, _ => rfl
  | .none, _ => rfl

lemma factorPlan_scoped (h : Imitates E σ τ fit p t) (c : Common V) (placement : Placement) :
    (x : TableFactor) → factorWithin fit (viewOf p t c) x = true →
      let out := (scopeFactor (viewOf p t c) placement x).value
      (factorPlan E σ c out.1, out.2.map (exprTerm E σ c)) =
        E.tested (viewOf p t c) placement (factorPlan E τ c x)
  | .base name arguments alias? hints, hw => by
    rw [factorWithin, Bool.and_eq_true, List.isEmpty_iff, List.isEmpty_iff] at hw
    obtain ⟨rfl, rfl⟩ := hw
    simp only [scopeFactor, scopePieces, counted, Counted.value_bind, Counted.value_pure, factorPlan,
      Engine.tested, List.isEmpty_nil, Bool.and_self, if_true]
    rw [exprTerm_predicates E σ c (viewOf p t c) ⟨name, alias?⟩]
  | .derived lateral q alias?, hw => by
    have hq : (fun env => (queryAnswer E σ c (scopeQuery (viewOf p t c) q).value env).table) =
        fun env => (queryAnswer E τ c q env).table :=
      funext fun env => congrArg Answer.table (queryAnswer_scoped h c q env hw)
    simp only [scopeFactor, Counted.value_bind, Counted.value_pure, factorPlan, Engine.tested, hq,
      List.map_nil]
  | .nested inner alias?, hw => by
    have hi := tablePlan_scoped h c placement inner hw
    simp only [scopeFactor, Counted.value_bind, Counted.value_pure, factorPlan, Engine.tested, ← hi]

lemma joinsPlan_scoped (h : Imitates E σ τ fit p t) (c : Common V) (placement : Placement)
    (first : Plan V) :
    (js : List Join) → joinsWithin fit (viewOf p t c) js = true →
      let out := (scopeJoins (viewOf p t c) placement js).value
      let start := E.tested (viewOf p t c) placement first
      (joinsPlan E σ c start.1 out.1, start.2 ++ out.2.map (exprTerm E σ c)) =
        E.tested (viewOf p t c) placement (joinsPlan E τ c first js)
  | [], _ => by
    simp only [scopeJoins, Counted.value_pure, joinsPlan, List.map_nil, List.append_nil]
  | { isGlobal, op, relation, matching, constraint } :: js, hw => by
    simp only [joinsWithin, Bool.and_eq_true] at hw
    obtain ⟨⟨⟨hrelation, hmatching⟩, hconstraint⟩, hjs⟩ := hw
    have hr := factorPlan_scoped h c placement relation hrelation
    have hm := optionTerm_scoped h c matching hmatching
    have hl := constraintLink_scoped h c constraint hconstraint
    have hj := joinsPlan_scoped h c placement
      (.join op (optionTerm E τ c matching) (constraintLink E τ c constraint) first
        (factorPlan E τ c relation)) js hjs
    have hd := divided_placed E σ c placement relation (scopeConstraint (viewOf p t c) constraint).value
      (scopeFactor (viewOf p t c) placement relation).value.2
    rw [joinsPlan, ← hj, Engine.tested, ← hr, ← hm, ← hl, isBase_factorPlan, ← hd]
    simp only [scopeJoins, Counted.value_bind, Counted.value_pure, joinsPlan, List.map_append,
      List.append_assoc]

lemma tablePlan_scoped (h : Imitates E σ τ fit p t) (c : Common V) (placement : Placement) :
    (x : TableWithJoins) → tableWithin fit (viewOf p t c) x = true →
      let out := (scopeTable (viewOf p t c) placement x).value
      (tablePlan E σ c out.1, out.2.map (exprTerm E σ c)) =
        E.tested (viewOf p t c) placement (tablePlan E τ c x)
  | { relation, joins }, hw => by
    rw [tableWithin, Bool.and_eq_true] at hw
    have hr := factorPlan_scoped h c placement relation hw.1
    have hj := joinsPlan_scoped h c placement (factorPlan E τ c relation) joins hw.2
    rw [tablePlan, ← hj, ← hr]
    simp only [scopeTable, Counted.value_bind, Counted.value_pure, tablePlan, List.map_append]

lemma tablesPlan_scoped (h : Imitates E σ τ fit p t) (c : Common V) (placement : Placement) :
    (xs : List TableWithJoins) → tablesWithin fit (viewOf p t c) xs = true →
      let out := (scopeTables (viewOf p t c) placement xs).value
      (tablesPlan E σ c out.1, out.2.map (exprTerm E σ c)) =
        E.tested (viewOf p t c) placement (tablesPlan E τ c xs)
  | [], _ => rfl
  | x :: xs, hw => by
    rw [tablesWithin, Bool.and_eq_true] at hw
    have hx := tablePlan_scoped h c placement x hw.1
    have hxs := tablesPlan_scoped h c placement xs hw.2
    rw [tablesPlan, Engine.tested, ← hx, ← hxs, Engine.divided_merge]
    simp only [scopeTables, Counted.value_bind, Counted.value_pure, tablesPlan, List.map_append]

lemma cteTables_scoped (h : Imitates E σ τ fit p t) (c : Common V) (env : Env V) :
    (xs : List Cte) → ctesWithin fit (viewOf p t c) xs = true →
      cteTables E σ c (scopeCtes (viewOf p t c) xs).value.1 env = cteTables E τ c xs env ∧
        (viewOf p t c).after xs = viewOf p t (cteTables E τ c xs env)
  | [], _ => ⟨rfl, rfl⟩
  | { given, query, source?, materialized } :: xs, hw => by
    simp only [ctesWithin, Bool.and_eq_true] at hw
    obtain ⟨⟨hname, hquery⟩, hrest⟩ := hw
    let table := renamedTable given (queryAnswer E τ c query env).table
    rw [withHidden_viewOf p t c given.name table hname] at hrest
    obtain ⟨htables, hafter⟩ := cteTables_scoped h _ env xs hrest
    have hq := queryAnswer_scoped h c query env hquery
    refine ⟨?_, ?_⟩
    · simp only [scopeCtes, Counted.value_bind, Counted.value_pure, cteTables, hq]
      rw [withHidden_viewOf p t c given.name table hname]
      exact htables
    · rw [View.after, cteTables, withHidden_viewOf p t c given.name table hname, hafter]

lemma sortKeys_scoped (h : Imitates E σ τ fit p t) (c : Common V) :
    (ks : List OrderKey) → keysWithin fit (viewOf p t c) ks = true →
      sortKeys E σ c (scopeKeys (viewOf p t c) ks).value = sortKeys E τ c ks
  | [], _ => rfl
  | { key, direction, fill } :: ks, hw => by
    simp only [keysWithin, Bool.and_eq_true] at hw
    simp only [scopeKeys, Counted.value_bind, Counted.value_pure, sortKeys,
      exprTerm_scoped h c key hw.1.1, pieceParts_scoped h c fill hw.1.2, sortKeys_scoped h c ks hw.2]

lemma queryAnswer_scoped (h : Imitates E σ τ fit p t) (c : Common V) :
    (q : Query) → (env : Env V) → queryWithin fit (viewOf p t c) q = true →
      queryAnswer E σ c (scopeQuery (viewOf p t c) q).value env = queryAnswer E τ c q env
  | { recursive, ctes, body, orderBy, interpolate, limit, tail }, env, hw => by
    simp only [queryWithin, Bool.and_eq_true] at hw
    obtain ⟨⟨⟨⟨⟨⟨-, hctes⟩, hbody⟩, horder⟩, hinter⟩, hlimit⟩, htail⟩ := hw
    obtain ⟨htables, hafter⟩ := cteTables_scoped h c env ctes hctes
    rw [hafter] at hbody horder hinter hlimit
    simp only [scopeQuery, Counted.value_bind, Counted.value_pure, queryAnswer,
      (after_scopeCtes _ ctes).2, htables, hafter, bodyAnswer_scoped h _ body env hbody, sortKeys_scoped h _ orderBy horder,
      pieceParts_scoped h _ interpolate hinter, optionTerm_scoped h _ limit hlimit,
      pieceParts_constant E σ τ _ tail htail]

lemma bodyAnswer_scoped (h : Imitates E σ τ fit p t) (c : Common V) :
    (b : Body) → (env : Env V) → bodyWithin fit (viewOf p t c) b = true →
      bodyAnswer E σ c (scopeBody (viewOf p t c) b).value env = bodyAnswer E τ c b env
  | .select s, env, hw => selectAnswer_scoped h c s env hw
  | .setOp l op quantifier r, env, hw => by
    rw [bodyWithin, Bool.and_eq_true] at hw
    simp only [scopeBody, Counted.value_bind, Counted.value_pure, bodyAnswer,
      bodyAnswer_scoped h c l env hw.1, bodyAnswer_scoped h c r env hw.2]
  | .query q, env, hw => queryAnswer_scoped h c q env hw

lemma selectItems_scoped (h : Imitates E σ τ fit p t) (c : Common V) :
    (is : List SelectItem) → itemsWithin fit (viewOf p t c) is = true →
      selectItems E σ c (scopeItems (viewOf p t c) is).value = selectItems E τ c is
  | [], _ => rfl
  | .expr e alias? :: is, hw => by
    rw [itemsWithin, Bool.and_eq_true] at hw
    simp only [scopeItems, Counted.value_bind, Counted.value_pure, selectItems,
      exprTerm_scoped h c e hw.1, selectItems_scoped h c is hw.2]
  | .wildcard qualifier options :: is, hw => by
    rw [itemsWithin, Bool.and_eq_true] at hw
    simp only [scopeItems, Counted.value_bind, Counted.value_pure, selectItems,
      pieceParts_scoped h c options hw.1, selectItems_scoped h c is hw.2]

lemma distinctness_scoped (h : Imitates E σ τ fit p t) (c : Common V) :
    (d : Distinct) → distinctWithin fit (viewOf p t c) d = true →
      distinctness E σ c (scopeDistinct (viewOf p t c) d).value = distinctness E τ c d
  | .none, _ => rfl
  | .rows, _ => rfl
  | .on keys, hw => congrArg Distinctness.on (exprTerms_scoped h c keys hw)

lemma selectAnswer_scoped (h : Imitates E σ τ fit p t) (c : Common V) :
    (s : Select) → (env : Env V) → selectWithin fit (viewOf p t c) s = true →
      selectAnswer E σ c (scopeSelect (viewOf p t c) s).value env = selectAnswer E τ c s env
  | { top, topFirst, distinct, items, into, tables, views, condition, groupAll, groupBy,
      groupModifiers, sorting, having, tail }, env, hw => by
    simp only [selectWithin, Bool.and_eq_true, List.isEmpty_iff] at hw
    obtain ⟨⟨⟨⟨⟨⟨⟨⟨⟨⟨htop, hdistinct⟩, hitems⟩, htables⟩, hfit⟩, rfl⟩, hcondition⟩, hgroup⟩, hsorting⟩,
      hhaving⟩, rfl⟩ := hw
    have ht := tablesPlan_scoped h c .joinCondition tables htables
    rw [← layout_tablesPlan E τ c tables] at hfit
    have hs := h c env (tablesPlan E τ c tables) (optionTerm E τ c condition) hfit
    rw [← ht] at hs
    simp only [scopeSelect, Counted.value_bind, Counted.value_pure, selectAnswer,
      optionTerm_extended, optionTerm_scoped h c condition hcondition, hs,
      pieceParts_scoped h c top htop, distinctness_scoped h c distinct hdistinct,
      selectItems_scoped h c items hitems, exprTerms_scoped h c groupBy hgroup,
      pieceParts_scoped h c sorting hsorting, optionTerm_scoped h c having hhaving,
      scopePieces, pieceParts]

end

end

end RowFence.Meaning
