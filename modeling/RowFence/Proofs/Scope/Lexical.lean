import RowFence.Proofs.Scope.Outline

/-! Names of common tables are lexically scoped: a common table is visible to the common tables
after it and to the clauses of its query, and a table is taken for it just in case it is visible
there. -/

namespace RowFence.Scope

open Sql

namespace Declaration

def hiddenName (d : Declaration) : TableName := .ofReference d.given.value

def place (d : Declaration) : Place := ctePlace d.block d.number

/-- The place of the query that the common table stands for. -/
def body (d : Declaration) : Place := 0 :: d.place

/-- After the common table in its WITH clause, or outside that clause in the query. -/
def VisibleAt (d : Declaration) (p : Place) : Prop :=
  1 :: d.place <:+ p ∨ d.block <:+ p ∧ ¬ 0 :: d.block <:+ p

instance (d : Declaration) (p : Place) : Decidable (d.VisibleAt p) :=
  inferInstanceAs (Decidable (_ ∨ _ ∧ _))

end Declaration

namespace Mention

/-- A name of one part that is written like that of the common table. -/
def RefersTo (m : Mention) (d : Declaration) : Prop :=
  m.name.length = 1 ∧ d.hiddenName = .ofReference (Name.spelling m.name)

instance (m : Mention) (d : Declaration) : Decidable (m.RefersTo d) :=
  inferInstanceAs (Decidable (_ ∧ _))

/-- Neither the view nor one of the declarations exempts the table from its predicate. -/
def Exposed (v : View) (ds : List Declaration) (m : Mention) : Prop :=
  v.exempts m.name = false ∧ ∀ d ∈ ds, d.VisibleAt m.place → ¬ m.RefersTo d

end Mention

section Places

lemma suffix_ctePlace (block : Place) (n : Nat) : 0 :: block <:+ ctePlace block n := by
  induction n with
  | zero => exact List.suffix_refl _
  | succ n ih => exact ih.trans (List.suffix_cons 1 _)

lemma ctePlace_suffix_iff (block : Place) (i j : Nat) :
    ctePlace block i <:+ ctePlace block j ↔ i ≤ j := by
  have hlength (n : Nat) : (ctePlace block n).length = block.length + 1 + n := by
    induction n with
    | zero => rfl
    | succ n ih => rw [ctePlace, List.length_cons, ih, Nat.add_assoc]
  refine ⟨fun h => ?_, fun h => ?_⟩
  · have hle := h.length_le
    rw [hlength, hlength] at hle
    omega
  · induction h with
    | refl => exact List.suffix_refl _
    | step _ ih => exact ih.trans (List.suffix_cons 1 _)

lemma not_branch {here p : Place} {i j : Nat} (hi : i :: here <:+ p) (hne : i ≠ j) :
    ¬ j :: here <:+ p :=
  fun hj => hne (branch_eq hi hj)

lemma suffix_of_branch {here p : Place} {i : Nat} (h : i :: here <:+ p) : here <:+ p :=
  (List.suffix_cons i here).trans h

lemma Declaration.suffix_body (d : Declaration) : 0 :: d.block <:+ d.body :=
  (suffix_ctePlace d.block d.number).trans (List.suffix_cons 0 _)

lemma Declaration.VisibleAt.block {d : Declaration} {p : Place} (h : d.VisibleAt p) :
    d.block <:+ p := by
  rcases h with hafter | ⟨hblock, -⟩
  · exact suffix_of_branch ((suffix_ctePlace d.block d.number).trans (suffix_of_branch hafter))
  · exact hblock

lemma Declaration.VisibleAt.not_body {d : Declaration} {p : Place} (h : d.VisibleAt p) :
    ¬ d.body <:+ p := by
  intro hbody
  rcases h with hafter | ⟨-, hclause⟩
  · exact not_branch hafter (by decide) hbody
  · exact hclause (d.suffix_body.trans hbody)

/-- In one WITH clause, a common table is visible to those declared after it. -/
lemma Declaration.visibleAt_body_iff {d e : Declaration} (hblock : e.block = d.block) :
    e.VisibleAt d.body ↔ e.number < d.number := by
  have hclause : ¬ (e.block <:+ d.body ∧ ¬ 0 :: e.block <:+ d.body) :=
    fun h => h.2 (hblock ▸ d.suffix_body)
  have hafter : 1 :: e.place <:+ d.body ↔ ctePlace d.block (e.number + 1) <:+ d.place := by
    rw [body, List.suffix_cons_iff, place, hblock]
    exact or_iff_right (by simp)
  rw [VisibleAt, or_iff_left hclause, hafter, place, ctePlace_suffix_iff, Nat.succ_le_iff]

mutual

lemma Outline.suffix_mentions (here : Place) :
    (o : Outline) → ∀ m ∈ o.mentions here, here <:+ m.place
  | .table name => by
    intro m hm
    obtain rfl := List.mem_singleton.mp hm
    exact List.suffix_refl here
  | .parts inner => by
    intro m hm
    obtain ⟨i, -, hi⟩ := branch_partMentions here 0 inner m hm
    exact suffix_of_branch hi
  | .query _ ctes clauses => by
    intro m hm
    rcases List.mem_append.mp hm with hm | hm
    · exact suffix_of_branch (suffix_cteMentions (0 :: here) ctes m hm)
    · obtain ⟨i, -, hi⟩ := branch_partMentions here 1 clauses m hm
      exact suffix_of_branch hi

lemma branch_partMentions (here : Place) (n : Nat) : (os : List Outline) →
    ∀ m ∈ partMentions here n os, ∃ i ≥ n, i :: here <:+ m.place
  | [] => nofun
  | o :: os => by
    intro m hm
    rcases List.mem_append.mp hm with hm | hm
    · exact ⟨n, Nat.le_refl n, o.suffix_mentions (n :: here) m hm⟩
    · obtain ⟨i, hi, hip⟩ := branch_partMentions here (n + 1) os m hm
      exact ⟨i, by omega, hip⟩

lemma suffix_cteMentions (here : Place) : (cs : List CteOutline) →
    ∀ m ∈ cteMentions here cs, here <:+ m.place
  | [] => nofun
  | { query, .. } :: cs => by
    intro m hm
    rcases List.mem_append.mp hm with hm | hm
    · exact suffix_of_branch (query.suffix_mentions (0 :: here) m hm)
    · exact suffix_of_branch (suffix_cteMentions (1 :: here) cs m hm)

end

mutual

lemma Outline.mentioned_of_exposed (v : View) (here : Place) :
    (o : Outline) → ∀ p ∈ o.exposed v here, ∃ m ∈ o.mentions here, m.place = p
  | .table name => by
    intro p hp
    refine ⟨_, List.mem_singleton_self _, ?_⟩
    rw [Outline.exposed] at hp
    split at hp
    · cases hp
    · exact (List.mem_singleton.mp hp).symm
  | .parts inner => mentioned_of_partsExposed v here 0 inner
  | .query _ ctes clauses => by
    intro p hp
    rcases List.mem_append.mp hp with hp | hp
    · obtain ⟨m, hm, rfl⟩ := mentioned_of_ctesExposed v (0 :: here) ctes p hp
      exact ⟨m, List.mem_append_left _ hm, rfl⟩
    · obtain ⟨m, hm, rfl⟩ := mentioned_of_partsExposed (v.withAllHidden ctes) here 1 clauses p hp
      exact ⟨m, List.mem_append_right _ hm, rfl⟩

lemma mentioned_of_partsExposed (v : View) (here : Place) (n : Nat) : (os : List Outline) →
    ∀ p ∈ partsExposed v here n os, ∃ m ∈ partMentions here n os, m.place = p
  | [] => nofun
  | o :: os => by
    intro p hp
    rcases List.mem_append.mp hp with hp | hp
    · obtain ⟨m, hm, rfl⟩ := o.mentioned_of_exposed v (n :: here) p hp
      exact ⟨m, List.mem_append_left _ hm, rfl⟩
    · obtain ⟨m, hm, rfl⟩ := mentioned_of_partsExposed v here (n + 1) os p hp
      exact ⟨m, List.mem_append_right _ hm, rfl⟩

lemma mentioned_of_ctesExposed (v : View) (here : Place) : (cs : List CteOutline) →
    ∀ p ∈ ctesExposed v here cs, ∃ m ∈ cteMentions here cs, m.place = p
  | [] => nofun
  | { given, query } :: cs => by
    intro p hp
    rcases List.mem_append.mp hp with hp | hp
    · obtain ⟨m, hm, rfl⟩ := query.mentioned_of_exposed v (0 :: here) p hp
      exact ⟨m, List.mem_append_left _ hm, rfl⟩
    · obtain ⟨m, hm, rfl⟩ := mentioned_of_ctesExposed (v.withHidden given) (1 :: here) cs p hp
      exact ⟨m, List.mem_append_right _ hm, rfl⟩

end

mutual

/-- What a construct declares is not visible outside it. -/
lemma Outline.suffix_of_visibleAt (here : Place) : (o : Outline) →
    ∀ d ∈ o.declarations here, ∀ p, d.VisibleAt p → here <:+ p
  | .table _ => nofun
  | .parts inner => by
    intro d hd p hp
    obtain ⟨i, -, hi⟩ := branch_of_visibleAt here 0 inner d hd p hp
    exact suffix_of_branch hi
  | .query recursive ctes clauses => by
    intro d hd p hp
    rcases List.mem_append.mp hd with hd | hd
    · rcases cte_of_visibleAt recursive here 0 ctes d hd p hp with h | h
      · exact suffix_of_branch h
      · exact h.1
    · obtain ⟨i, -, hi⟩ := branch_of_visibleAt here 1 clauses d hd p hp
      exact suffix_of_branch hi

lemma branch_of_visibleAt (here : Place) (n : Nat) : (os : List Outline) →
    ∀ d ∈ partDeclarations here n os, ∀ p, d.VisibleAt p → ∃ i ≥ n, i :: here <:+ p
  | [] => nofun
  | o :: os => by
    intro d hd p hp
    rcases List.mem_append.mp hd with hd | hd
    · exact ⟨n, Nat.le_refl n, o.suffix_of_visibleAt (n :: here) d hd p hp⟩
    · obtain ⟨i, hi, hip⟩ := branch_of_visibleAt here (n + 1) os d hd p hp
      exact ⟨i, by omega, hip⟩

lemma cte_of_visibleAt (recursive : Bool) (block : Place) (n : Nat) : (cs : List CteOutline) →
    ∀ d ∈ cteDeclarations recursive block n cs, ∀ p, d.VisibleAt p →
      ctePlace block n <:+ p ∨ block <:+ p ∧ ¬ 0 :: block <:+ p
  | [] => nofun
  | { given, query } :: cs => by
    intro d hd p hp
    rcases List.mem_cons.mp hd with rfl | hd
    · exact hp.imp_left suffix_of_branch
    · rcases List.mem_append.mp hd with hd | hd
      · exact .inl (suffix_of_branch (query.suffix_of_visibleAt _ d hd p hp))
      · exact (cte_of_visibleAt recursive block (n + 1) cs d hd p hp).imp_left suffix_of_branch

end

end Places

section Exposure

namespace Mention

variable {v : View} {ds ds' : List Declaration} {m : Mention}

lemma exposed_append_left (h : ∀ d ∈ ds', ¬ d.VisibleAt m.place) :
    m.Exposed v (ds ++ ds') ↔ m.Exposed v ds := by
  refine and_congr_right fun _ => ⟨fun hall d hd => hall d (List.mem_append_left _ hd), ?_⟩
  intro hall d hd hvisible
  rcases List.mem_append.mp hd with hd | hd
  · exact hall d hd hvisible
  · exact absurd hvisible (h d hd)

lemma exposed_append_right (h : ∀ d ∈ ds, ¬ d.VisibleAt m.place) :
    m.Exposed v (ds ++ ds') ↔ m.Exposed v ds' := by
  refine and_congr_right fun _ => ⟨fun hall d hd => hall d (List.mem_append_right _ hd), ?_⟩
  intro hall d hd hvisible
  rcases List.mem_append.mp hd with hd | hd
  · exact absurd hvisible (h d hd)
  · exact hall d hd hvisible

lemma exposed_cons_of_not_visibleAt {d : Declaration} (h : ¬ d.VisibleAt m.place) :
    m.Exposed v (d :: ds) ↔ m.Exposed v ds := by
  rw [← List.singleton_append]
  exact exposed_append_right fun _ he => List.mem_singleton.mp he ▸ h

lemma exempts_withHidden (v : View) (m : Mention) (d : Declaration) :
    (v.withHidden d.given).exempts m.name = false ↔
      v.exempts m.name = false ∧ ¬ m.RefersTo d := by
  simp only [View.exempts, View.hides, View.withHidden, RefersTo, Declaration.hiddenName,
    Bool.or_eq_false_iff, Bool.and_eq_false_iff, List.contains_append, List.contains_cons,
    List.contains_nil, decide_eq_false_iff_not, beq_eq_false_iff_ne, Bool.or_false, not_and]
  grind

/-- Where a common table is visible, its declaration counts as much as a view that hides it. -/
lemma exposed_cons_of_visibleAt {d : Declaration} (h : d.VisibleAt m.place) :
    m.Exposed v (d :: ds) ↔ m.Exposed (v.withHidden d.given) ds := by
  simp only [Exposed, exempts_withHidden, List.forall_mem_cons, h, true_implies, and_assoc]

/-- In the clauses of a query, the declarations of its common tables count as much as a view that
hides them all. What is declared inside a common table does not count. -/
lemma exposed_cteDeclarations {block : Place} (hblock : block <:+ m.place)
    (hclause : ¬ 0 :: block <:+ m.place) (recursive : Bool) (v : View) (n : Nat)
    (cs : List CteOutline) :
    m.Exposed v (cteDeclarations recursive block n cs ++ ds) ↔
      m.Exposed (v.withAllHidden cs) ds := by
  induction cs generalizing v n with
  | nil => rfl
  | cons c cs ih =>
    obtain ⟨given, query⟩ := c
    have hinside : ∀ d ∈ query.declarations (0 :: ctePlace block n), ¬ d.VisibleAt m.place :=
      fun d hd hvisible => hclause ((suffix_ctePlace block n).trans
        (suffix_of_branch (query.suffix_of_visibleAt _ d hd _ hvisible)))
    rw [cteDeclarations, List.cons_append, exposed_cons_of_visibleAt (.inr ⟨hblock, hclause⟩),
      List.append_assoc, exposed_append_right hinside, View.withAllHidden]
    exact ih (v.withHidden given) (n + 1)

end Mention

variable {v : View} {here p : Place} {n : Nat}

lemma Outline.not_mem_exposed (o : Outline) (h : ¬ here <:+ p) : p ∉ o.exposed v here := by
  intro hp
  obtain ⟨m, hm, rfl⟩ := o.mentioned_of_exposed v here p hp
  exact h (o.suffix_mentions here m hm)

lemma not_mem_partsExposed (os : List Outline) (h : ∀ i ≥ n, ¬ i :: here <:+ p) :
    p ∉ partsExposed v here n os := by
  intro hp
  obtain ⟨m, hm, rfl⟩ := mentioned_of_partsExposed v here n os p hp
  obtain ⟨i, hi, hip⟩ := branch_partMentions here n os m hm
  exact h i hi hip

lemma not_mem_ctesExposed (cs : List CteOutline) (h : ¬ here <:+ p) :
    p ∉ ctesExposed v here cs := by
  intro hp
  obtain ⟨m, hm, rfl⟩ := mentioned_of_ctesExposed v here cs p hp
  exact h (suffix_cteMentions here cs m hm)

mutual

/-- A table gets a predicate just in case neither the view nor a declaration that is visible at its
place exempts it. -/
lemma Outline.mem_exposed_iff (v : View) (here : Place) : (o : Outline) →
    ∀ m ∈ o.mentions here, (m.place ∈ o.exposed v here ↔ m.Exposed v (o.declarations here))
  | .table name => by
    intro m hm
    obtain rfl := List.mem_singleton.mp hm
    rw [Outline.exposed, Outline.declarations, Mention.Exposed]
    cases v.exempts name <;> simp
  | .parts inner => mem_partsExposed_iff v here 0 inner
  | .query recursive ctes clauses => by
    intro m hm
    rw [Outline.exposed, List.mem_append, Outline.declarations]
    rcases List.mem_append.mp hm with hm | hm
    · have hwith := suffix_cteMentions (0 :: here) ctes m hm
      have hother : ∀ i ≥ 1, ¬ i :: here <:+ m.place := fun i hi =>
        not_branch hwith (by omega)
      have hclauses : ∀ d ∈ partDeclarations here 1 clauses, ¬ d.VisibleAt m.place := by
        intro d hd hvisible
        obtain ⟨i, hi, hip⟩ := branch_of_visibleAt here 1 clauses d hd _ hvisible
        exact hother i hi hip
      rw [or_iff_left (not_mem_partsExposed clauses hother), Mention.exposed_append_left hclauses]
      exact mem_ctesExposed_iff recursive v here 0 ctes m hm
    · obtain ⟨i, hi, hip⟩ := branch_partMentions here 1 clauses m hm
      have hclause : ¬ 0 :: here <:+ m.place := not_branch hip (by omega)
      rw [or_iff_right (not_mem_ctesExposed ctes hclause),
        Mention.exposed_cteDeclarations (suffix_of_branch hip) hclause]
      exact mem_partsExposed_iff (v.withAllHidden ctes) here 1 clauses m hm

lemma mem_partsExposed_iff (v : View) (here : Place) (n : Nat) : (os : List Outline) →
    ∀ m ∈ partMentions here n os,
      (m.place ∈ partsExposed v here n os ↔ m.Exposed v (partDeclarations here n os))
  | [] => nofun
  | o :: os => by
    intro m hm
    rw [partsExposed, List.mem_append, partDeclarations]
    rcases List.mem_append.mp hm with hm | hm
    · have hown := o.suffix_mentions (n :: here) m hm
      have hother : ∀ i ≥ n + 1, ¬ i :: here <:+ m.place := fun i hi =>
        not_branch hown (by omega)
      have hlater : ∀ d ∈ partDeclarations here (n + 1) os, ¬ d.VisibleAt m.place := by
        intro d hd hvisible
        obtain ⟨i, hi, hip⟩ := branch_of_visibleAt here (n + 1) os d hd _ hvisible
        exact hother i hi hip
      rw [or_iff_left (not_mem_partsExposed os hother), Mention.exposed_append_left hlater]
      exact o.mem_exposed_iff v (n :: here) m hm
    · obtain ⟨i, hi, hip⟩ := branch_partMentions here (n + 1) os m hm
      have hother : ¬ n :: here <:+ m.place := not_branch hip (by omega)
      have hearlier : ∀ d ∈ o.declarations (n :: here), ¬ d.VisibleAt m.place :=
        fun d hd hvisible => hother (o.suffix_of_visibleAt _ d hd _ hvisible)
      rw [or_iff_right (o.not_mem_exposed hother), Mention.exposed_append_right hearlier]
      exact mem_partsExposed_iff v here (n + 1) os m hm

lemma mem_ctesExposed_iff (recursive : Bool) (v : View) (block : Place) (n : Nat) :
    (cs : List CteOutline) → ∀ m ∈ cteMentions (ctePlace block n) cs,
      (m.place ∈ ctesExposed v (ctePlace block n) cs ↔
        m.Exposed v (cteDeclarations recursive block n cs))
  | [] => nofun
  | { given, query } :: cs => by
    intro m hm
    rw [ctesExposed, List.mem_append, cteDeclarations]
    rcases List.mem_append.mp hm with hm | hm
    · have hbody := query.suffix_mentions (0 :: ctePlace block n) m hm
      have hother : ¬ 1 :: ctePlace block n <:+ m.place := not_branch hbody (by decide)
      have hlater : ∀ d ∈ cteDeclarations recursive block (n + 1) cs, ¬ d.VisibleAt m.place := by
        intro d hd hvisible
        rcases cte_of_visibleAt recursive block (n + 1) cs d hd _ hvisible with h | ⟨-, h⟩
        · exact hother h
        · exact h ((suffix_ctePlace block n).trans (suffix_of_branch hbody))
      have hown : ¬ Declaration.VisibleAt ⟨given, recursive, block, n⟩ m.place :=
        fun hvisible => hvisible.not_body hbody
      rw [or_iff_left (not_mem_ctesExposed cs hother), Mention.exposed_cons_of_not_visibleAt hown,
        Mention.exposed_append_left hlater]
      exact query.mem_exposed_iff v (0 :: ctePlace block n) m hm
    · have hlater := suffix_cteMentions (1 :: ctePlace block n) cs m hm
      have hother : ¬ 0 :: ctePlace block n <:+ m.place := not_branch hlater (by decide)
      have hinside : ∀ d ∈ query.declarations (0 :: ctePlace block n), ¬ d.VisibleAt m.place :=
        fun d hd hvisible => hother (query.suffix_of_visibleAt _ d hd _ hvisible)
      have hown : Declaration.VisibleAt ⟨given, recursive, block, n⟩ m.place := .inl hlater
      rw [or_iff_right (query.not_mem_exposed hother), Mention.exposed_cons_of_visibleAt hown,
        Mention.exposed_append_right hinside]
      exact mem_ctesExposed_iff recursive (v.withHidden given) block (n + 1) cs m hm

end

end Exposure

/-- The tables of statements that rows are taken from, as far as scoping looks into them. -/
def mentions (ss : List Statement) : List Mention := (statementsOutline ss).mentions []

def declarations (ss : List Statement) : List Declaration := (statementsOutline ss).declarations []

section Statements

variable (p : Policy) (tenant : TenantId) {ss : List Statement}

lemma mem_tables_iff {m : Mention} (hm : m ∈ mentions ss) :
    m.place ∈ (traceStatements ⟨p, tenant, []⟩ [] ss).tables ↔
      p.excludesTable (Name.spelling m.name) = false ∧
        ∀ d ∈ declarations ss, d.VisibleAt m.place → ¬ m.RefersTo d := by
  have hexempts : View.exempts ⟨p, tenant, []⟩ m.name = p.excludesTable (Name.spelling m.name) := by
    simp only [View.exempts, View.hides, List.contains_nil, Bool.and_false, Bool.or_false]
  rw [tables_traceStatements, (statementsOutline ss).mem_exposed_iff _ [] m hm, Mention.Exposed,
    hexempts]
  rfl

lemma not_mem_tables_iff {m : Mention} (hm : m ∈ mentions ss) :
    m.place ∉ (traceStatements ⟨p, tenant, []⟩ [] ss).tables ↔
      p.excludesTable (Name.spelling m.name) = true ∨
        ∃ d ∈ declarations ss, d.VisibleAt m.place ∧ m.RefersTo d := by
  rw [mem_tables_iff p tenant hm, not_and_or, Bool.not_eq_false]
  push Not
  rfl

end Statements

/-- Each table that is not excluded is spared its predicate just in case it has the name of a common
table that is visible to it. A common table is visible in its query only: to the common tables after
it, and not in its own body. Every statement starts without any. -/
theorem spared_iff_visible (p : Policy) (tenant : TenantId) (ss : List Statement) :
    let traced := traceStatements ⟨p, tenant, []⟩ [] ss
    traced.counted = p.scopedStatements tenant ss ∧
      (∀ q ∈ traced.tables, ∃ m ∈ mentions ss, m.place = q) ∧
      (∀ m ∈ mentions ss, p.excludesTable (Name.spelling m.name) = false →
        (m.place ∉ traced.tables ↔
          ∃ d ∈ declarations ss, d.VisibleAt m.place ∧ m.RefersTo d)) ∧
      (∀ d ∈ declarations ss, (∀ q, d.VisibleAt q → d.block <:+ q ∧ ¬ d.body <:+ q) ∧
        ∀ e ∈ declarations ss, e.block = d.block → (e.VisibleAt d.body ↔ e.number < d.number)) ∧
      (p.scopedStatements tenant ss).value =
        ss.map fun s => (scopeStatement ⟨p, tenant, []⟩ s).value := by
  intro traced
  refine ⟨counted_traceStatements _ [] ss, fun q hq => ?_, fun m hm hplain => ?_,
    fun d _ => ⟨fun q hvisible => ⟨hvisible.block, hvisible.not_body⟩,
      fun e _ hblock => Declaration.visibleAt_body_iff hblock⟩, value_scopeStatements _ ss⟩
  · rw [show traced.tables = _ from tables_traceStatements _ [] ss] at hq
    exact (statementsOutline ss).mentioned_of_exposed _ [] q hq
  · rw [not_mem_tables_iff p tenant hm, hplain]
    simp only [Bool.false_eq_true, false_or]

def allOf (table : String) : Query := selectFrom table [.wildcard [] []]

def named (name : String) (query : Query) : Cte := ⟨⟨⟨name, none⟩, []⟩, query, none, none⟩

/-- The statement `WITH a AS (SELECT * FROM orders), b AS (WITH c AS (SELECT * FROM a) SELECT * FROM C)
SELECT * FROM c`. -/
def nestedNames : List Statement :=
  [.query { allOf "c" with
    ctes := [named "a" (allOf "orders"), named "b" { allOf "C" with ctes := [named "c" (allOf "a")] }] }]

/-- Inside `b` the name `c` is that of a common table, outside it is not. -/
theorem spared_nestedNames :
    let traced := traceStatements ⟨.usualEnabled, .one, []⟩ [] nestedNames
    (∃ m ∈ mentions nestedNames, Name.spelling m.name = "C" ∧ m.place ∉ traced.tables) ∧
      ∃ m ∈ mentions nestedNames, Name.spelling m.name = "c" ∧ m.place ∈ traced.tables := by
  intro traced
  have hspared := (spared_iff_visible .usualEnabled .one nestedNames).2.2.1
  obtain ⟨⟨m, hm, hname, hplain, hvisible⟩, n, hn, hname', hplain', hhidden⟩ :
      (∃ m ∈ mentions nestedNames, Name.spelling m.name = "C" ∧
        Policy.usualEnabled.excludesTable (Name.spelling m.name) = false ∧
        ∃ d ∈ declarations nestedNames, d.VisibleAt m.place ∧ m.RefersTo d) ∧
      ∃ n ∈ mentions nestedNames, Name.spelling n.name = "c" ∧
        Policy.usualEnabled.excludesTable (Name.spelling n.name) = false ∧
        ¬ ∃ d ∈ declarations nestedNames, d.VisibleAt n.place ∧ n.RefersTo d := by
    decide +kernel
  exact ⟨⟨m, hm, hname, (hspared m hm hplain).mpr hvisible⟩,
    n, hn, hname', not_not.mp (mt (hspared n hn hplain').mp hhidden)⟩

/-- `RECURSIVE` makes no difference. A common table that is named in its own body is spared there
just in case it is excluded, or another common table of its name is visible; all other tables of the
body get their predicates. -/
theorem spared_in_body_iff (p : Policy) (tenant : TenantId) (ss : List Statement) :
    let traced := traceStatements ⟨p, tenant, []⟩ [] ss
    ∀ d ∈ declarations ss, d.recursive = true → ∀ m ∈ mentions ss, d.body <:+ m.place →
      (m.RefersTo d →
        (m.place ∉ traced.tables ↔ p.excludesTable (Name.spelling m.name) = true ∨
          ∃ e ∈ declarations ss, e ≠ d ∧ e.VisibleAt m.place ∧ e.hiddenName = d.hiddenName)) ∧
      (p.excludesTable (Name.spelling m.name) = false →
        (∀ e ∈ declarations ss, e.VisibleAt m.place → ¬ m.RefersTo e) →
        m.place ∈ traced.tables) := by
  intro traced d hd _ m hm hbody
  refine ⟨fun hrefers => ?_, fun hplain hnone => (mem_tables_iff p tenant hm).mpr ⟨hplain, hnone⟩⟩
  rw [not_mem_tables_iff p tenant hm]
  refine or_congr_right (exists_congr fun e => and_congr_right fun _ => ?_)
  constructor
  · rintro ⟨hvisible, hother⟩
    refine ⟨?_, hvisible, hother.2.trans hrefers.2.symm⟩
    rintro rfl
    exact hvisible.not_body hbody
  · rintro ⟨-, hvisible, hname⟩
    exact ⟨hvisible, hrefers.1, hname.trans hrefers.2⟩

/-- The query `WITH RECURSIVE t AS (SELECT * FROM orders UNION ALL SELECT * FROM t) SELECT * FROM t`. -/
def recursion : Query :=
  { allOf "t" with
    recursive := true
    ctes := [named "t" { allOf "t" with
      body := .setOp (allOf "orders").body .union " ALL" (allOf "t").body }] }

/-- The same query in parentheses, behind `WITH t AS (SELECT * FROM items)`. -/
def shadowedRecursion : List Statement :=
  [.query { allOf "t" with ctes := [named "t" (allOf "items")], body := .query recursion }]

/-- The reference to `t` in its own body is taken for that of the common table outside. -/
theorem spared_shadowedRecursion :
    let traced := traceStatements ⟨.usualEnabled, .one, []⟩ [] shadowedRecursion
    ∃ d ∈ declarations shadowedRecursion, d.recursive = true ∧
      (∃ m ∈ mentions shadowedRecursion,
        d.body <:+ m.place ∧ m.RefersTo d ∧ m.place ∉ traced.tables) ∧
      ∃ m ∈ mentions shadowedRecursion,
        d.body <:+ m.place ∧ Name.spelling m.name = "orders" ∧ m.place ∈ traced.tables := by
  intro traced
  obtain ⟨d, hd, hrecursive, ⟨m, hm, hbody, hrefers, hvisible⟩, n, hn, hbody', hname, hplain, hnone⟩ :
      ∃ d ∈ declarations shadowedRecursion, d.recursive = true ∧
        (∃ m ∈ mentions shadowedRecursion, d.body <:+ m.place ∧ m.RefersTo d ∧
          ∃ e ∈ declarations shadowedRecursion,
            e ≠ d ∧ e.VisibleAt m.place ∧ e.hiddenName = d.hiddenName) ∧
        ∃ n ∈ mentions shadowedRecursion, d.body <:+ n.place ∧ Name.spelling n.name = "orders" ∧
          Policy.usualEnabled.excludesTable (Name.spelling n.name) = false ∧
          ∀ e ∈ declarations shadowedRecursion, e.VisibleAt n.place → ¬ n.RefersTo e := by
    decide +kernel
  have hspared := spared_in_body_iff .usualEnabled .one shadowedRecursion d hd hrecursive
  exact ⟨d, hd, hrecursive, ⟨m, hm, hbody, hrefers, ((hspared m hm hbody).1 hrefers).mpr (.inr hvisible)⟩,
    n, hn, hbody', hname, (hspared n hn hbody').2 hplain hnone⟩

/-- A common table that recurs gets a predicate in its own body, as if it was a table. -/
theorem predicated_recursion :
    spellStatements [.query recursion] =
        "WITH RECURSIVE t AS (SELECT * FROM orders UNION ALL SELECT * FROM t) SELECT * FROM t" ∧
      ∃ d ∈ declarations [.query recursion], d.recursive = true ∧
        ∃ m ∈ mentions [.query recursion], d.body <:+ m.place ∧ m.RefersTo d ∧
          Policy.usualEnabled.excludesTable (Name.spelling m.name) = false ∧
          m.place ∈ (traceStatements ⟨.usualEnabled, .one, []⟩ [] [.query recursion]).tables := by
  decide +kernel

end RowFence.Scope
