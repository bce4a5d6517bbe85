import RowFence.Proofs.Scope.Insertions

/-! Excluding more tables takes their predicates out of the slots of a statement, and nothing
else. -/

namespace RowFence.Scope

open Sql
open Meaning (Occurrence)

def isNamedIn (tables : List String) (place : Occurrence) : Bool :=
  (tables.map TableName.ofReference).contains (.ofReference (Name.spelling place.name))

/-- Slot by slot, without the predicates of the named tables. -/
def withoutNamed (tables : List String) (insertions : List (List Occurrence)) :
    List (List Occurrence) :=
  insertions.map (List.filter (!isNamedIn tables ·))

def View.withExcludedTables (v : View) (tables : List String) : View :=
  { v with policy := v.policy.withExcludedTables tables }

section

variable (tables : List String)

lemma exempts_withExcludedTables (v : View) (place : Occurrence) :
    (v.withExcludedTables tables).exempts place.name =
      (v.exempts place.name || isNamedIn tables place) := by
  have hhides : (v.withExcludedTables tables).hides place.name = v.hides place.name := rfl
  rw [View.exempts, View.exempts, hhides, View.withExcludedTables, Policy.excludesTable,
    Policy.excludesName, Policy.withExcludedTables, List.contains_append, Policy.excludesTable,
    Policy.excludesName, isNamedIn]
  simp only [Bool.or_assoc, Bool.or_comm (v.hides place.name)]

lemma beyond_withExcludedTables (v : View) (ctes : List CteSlots) :
    (v.withExcludedTables tables).beyond ctes = (v.beyond ctes).withExcludedTables tables := by
  induction ctes generalizing v with
  | nil => rfl
  | cons c cs ih => exact ih (v.withHidden c.given)

lemma withoutNamed_append (first second : List (List Occurrence)) :
    withoutNamed tables (first ++ second) =
      withoutNamed tables first ++ withoutNamed tables second :=
  List.map_append

mutual

lemma insertions_withExcludedTables (v : View) : (s : SlotTree) →
    s.insertions (v.withExcludedTables tables) = withoutNamed tables (s.insertions v)
  | .slot condition places => by
    simp only [SlotTree.insertions, withoutNamed, List.map_singleton, List.filter_filter,
      exempts_withExcludedTables, Bool.not_or, Bool.and_comm]
  | .query ctes clauses => by
    rw [SlotTree.insertions, SlotTree.insertions, cteInsertions_withExcludedTables v ctes,
      beyond_withExcludedTables, insertionsOf_withExcludedTables (v.beyond ctes) clauses,
      withoutNamed_append]

lemma insertionsOf_withExcludedTables (v : View) : (ss : List SlotTree) →
    insertionsOf (v.withExcludedTables tables) ss = withoutNamed tables (insertionsOf v ss)
  | [] => rfl
  | s :: ss => by
    rw [insertionsOf, insertionsOf, insertions_withExcludedTables v s,
      insertionsOf_withExcludedTables v ss, withoutNamed_append]

lemma cteInsertions_withExcludedTables (v : View) : (cs : List CteSlots) →
    cteInsertions (v.withExcludedTables tables) cs = withoutNamed tables (cteInsertions v cs)
  | [] => rfl
  | { given, query } :: cs => by
    rw [cteInsertions, cteInsertions, insertions_withExcludedTables v query, withoutNamed_append]
    exact congrArg _ (cteInsertions_withExcludedTables (v.withHidden given) cs)

end

lemma insertionCount_withoutNamed_le (insertions : List (List Occurrence)) :
    insertionCount (withoutNamed tables insertions) ≤ insertionCount insertions := by
  induction insertions with
  | nil => exact Nat.le_refl 0
  | cons places insertions ih => exact Nat.add_le_add (List.length_filter_le _ places) ih

/-- The same texts are refused, the same are let through unread, and no more predicates are
added. -/
structure AddsNoMore (sql : String) (before after : Except Refusal Outcome) : Prop where
  refused (e : Refusal) : after = .error e ↔ before = .error e
  unread : after = .ok (.unchanged sql .unparseable) ↔ before = .ok (.unchanged sql .unparseable)
  added {o o' : Outcome} : before = .ok o → after = .ok o' → o'.predicatesAdded ≤ o.predicatesAdded

lemma AddsNoMore.refl (sql : String) (result : Except Refusal Outcome) :
    AddsNoMore sql result result where
  refused _ := Iff.rfl
  unread := Iff.rfl
  added ho ho' := by
    obtain rfl := Except.ok.inj (ho.symm.trans ho')
    exact Nat.le_refl _

lemma AddsNoMore.of_ok {sql : String} {o o' : Outcome} (h : o'.predicatesAdded ≤ o.predicatesAdded)
    (ho : o.unchanged? ≠ some .unparseable) (ho' : o'.unchanged? ≠ some .unparseable) :
    AddsNoMore sql (.ok o) (.ok o') where
  refused e := iff_of_false (fun h => nomatch h) fun h => nomatch h
  unread := by
    refine iff_of_false (fun h => ho' ?_) fun h => ho ?_
    · rw [Except.ok.inj h, Outcome.unchanged]
    · rw [Except.ok.inj h, Outcome.unchanged]
  added hleft hright := by
    rwa [← Except.ok.inj hleft, ← Except.ok.inj hright]

lemma scopedStatements_added_le (p : Policy) (tenant : TenantId) (ss : List Statement) :
    ((p.withExcludedTables tables).scopedStatements tenant ss).added ≤
      (p.scopedStatements tenant ss).added := by
  rw [(fillStatements_scopedStatements (p.withExcludedTables tables) tenant ss).2,
    (fillStatements_scopedStatements p tenant ss).2]
  have hfewer := insertionsOf_withExcludedTables tables ⟨p, tenant, []⟩ (statementsSlots ss)
  exact hfewer ▸ insertionCount_withoutNamed_le tables _

lemma addsNoMore_withExcludedTables (p : Policy) (tenant? : Option TenantId) (sql : String) :
    AddsNoMore sql (p.outcome tenant? sql) ((p.withExcludedTables tables).outcome tenant? sql) := by
  cases tenant? with
  | none => exact .refl sql _
  | some tenant =>
    have hreads : (p.withExcludedTables tables).dialect = p.dialect := rfl
    have henabled : (p.withExcludedTables tables).enabled = p.enabled := rfl
    unfold Policy.outcome
    rw [henabled, hreads]
    cases p.enabled with
    | false => exact .refl sql _
    | true =>
      cases parseStatements p.dialect sql with
      | error e => exact .refl sql _
      | ok ss =>
        have hle := scopedStatements_added_le tables p tenant ss
        revert hle
        dsimp only
        rcases p.scopedStatements tenant ss with ⟨before, _ | n⟩ <;>
          rcases (p.withExcludedTables tables).scopedStatements tenant ss with ⟨after, _ | k⟩ <;>
          exact fun hle => .of_ok hle (fun h => nomatch h) fun h => nomatch h

/-- Excluding more tables takes exactly their predicates out of the slots they were in, in the order
in which the others are, and leaves alone what becomes of texts that cannot be read. -/
theorem scopedStatements_withExcludedTables (p : Policy) (tables : List String) (tenant : TenantId)
    (ss : List Statement) :
    let q := p.withExcludedTables tables
    let insertions := insertionsOf ⟨p, tenant, []⟩ (statementsSlots ss)
    let fewer := withoutNamed tables insertions
    fillStatements ss (inserted p.tenantColumn tenant insertions) =
        some ((p.scopedStatements tenant ss).value, []) ∧
      fillStatements ss (inserted p.tenantColumn tenant fewer) =
        some ((q.scopedStatements tenant ss).value, []) ∧
      (p.scopedStatements tenant ss).added = insertionCount insertions ∧
      (q.scopedStatements tenant ss).added = insertionCount fewer ∧
      (q.scopedStatements tenant ss).added ≤ (p.scopedStatements tenant ss).added ∧
      ∀ tenant? sql, AddsNoMore sql (p.outcome tenant? sql) (q.outcome tenant? sql) := by
  intro q insertions fewer
  have hfewer : insertionsOf ⟨q, tenant, []⟩ (statementsSlots ss) = fewer :=
    insertionsOf_withExcludedTables tables ⟨p, tenant, []⟩ _
  obtain ⟨hbefore, hcount⟩ := fillStatements_scopedStatements p tenant ss
  obtain ⟨hafter, hcount'⟩ := fillStatements_scopedStatements q tenant ss
  rw [hfewer] at hafter hcount'
  exact ⟨hbefore, hafter, hcount, hcount', scopedStatements_added_le tables p tenant ss,
    addsNoMore_withExcludedTables tables p⟩

end

end RowFence.Scope
