import RowFence.Filter
import RowFence.Proofs.Scope.Additions
import RowFence.Proofs.Scope.FormScoping
import RowFence.Proofs.Sql.FormPrecedence
import RowFence.Scope.Outcome

/-! How a condition is read after it has been extended. -/

namespace RowFence.Scope

open Sql

/-- A formula that joins others by `AND`, in order. Parentheses make no difference. -/
inductive IsConjunction : List Formula → Formula → Prop
  | alone (f : Formula) : IsConjunction [f] f
  | nested {fs : List Formula} {f : Formula} (h : IsConjunction fs f) : IsConjunction fs (.nested f)
  | and {fs : List Formula} {f : Formula} (h : IsConjunction fs f) (g : Formula) :
      IsConjunction (fs ++ [g]) (.between f (.sign .and) g)

namespace IsConjunction

lemma sizeOf_le {fs : List Formula} {f g : Formula} (h : IsConjunction fs f) (hg : g ∈ fs) :
    sizeOf g ≤ sizeOf f := by
  induction h with
  | alone f => rw [List.mem_singleton.mp hg]
  | nested h ih =>
    have hle := ih hg
    simp only [Formula.nested.sizeOf_spec]
    omega
  | and h g' ih =>
    simp only [Formula.between.sizeOf_spec]
    rcases List.mem_append.mp hg with hg | hg
    · have hle := ih hg
      omega
    · rw [List.mem_singleton.mp hg]
      omega

/-- If the right operand of the first formula goes on, the formulas are not joined. -/
lemma not_of_stretches {f g : Formula} {fs : List Formula} (hfs : fs ≠ [])
    (h : Precedence.Stretches f g) : ¬ IsConjunction (f :: fs) g := by
  intro hg
  generalize hall : f :: fs = all at hg
  cases hg with
  | alone => exact hfs (List.cons.inj hall).2
  | nested => cases h
  | @and gs left _ right =>
    cases gs with
    | nil => exact hfs (List.cons.inj hall).2
    | cons first gs =>
      obtain ⟨hfirst, -⟩ := List.cons.inj hall
      rename_i hleft
      have hle := hleft.sizeOf_le List.mem_cons_self
      rw [← hfirst] at hle
      cases h
      simp only [Formula.between.sizeOf_spec] at hle
      omega

end IsConjunction

/-- Such conditions as tenant predicates are. -/
def IsComparison (p : Expr) : Prop := ∃ parts s, p = .binary (.name parts) .eq (.value s)

/-- A precedence by which conditions are split at `AND` first, and comparisons are not split. -/
structure SplitsAtAnd (P : Precedence) : Prop where
  and_and : P.strength (.sign .and) ≤ P.reach (.sign .and)
  and_eq : P.reach (.sign .and) < P.strength (.sign .eq)
  eq_and : P.strength (.sign .and) ≤ P.reach (.sign .eq)

lemma splitsAtAnd_ofDialect (d : Dialect) : SplitsAtAnd (.ofDialect d) := by
  cases d <;> exact ⟨by decide, by decide, by decide⟩

lemma splitsAtAnd_server : SplitsAtAnd .server := ⟨by decide, by decide, by decide⟩

section Loose

lemma hasLoose_eq_false_iff (e : Expr) : hasLoose e = false ↔ e.collect looseOperators = [] := by
  rw [hasLoose, Bool.not_eq_false', List.isEmpty_iff]

/-- Parentheses are put around a condition that has a loose operator outside of any. -/
lemma grouped_cases (c : Expr) :
    (∃ e, c = .nested e ∧ grouped c = c) ∨ (hasLoose c = true ∧ grouped c = .nested c) ∨
      (hasLoose c = false ∧ grouped c = c) := by
  unfold grouped
  split
  · exact .inl ⟨_, rfl, rfl⟩
  · split
    · rename_i hloose
      exact .inr (.inl ⟨hloose, rfl⟩)
    · rename_i htight
      exact .inr (.inr ⟨Bool.eq_false_iff.mpr htight, rfl⟩)

lemma collect_grouped (c : Expr) :
    (grouped c).collect looseOperators = c.collect looseOperators := by
  obtain ⟨e, -, h⟩ | ⟨-, h⟩ | ⟨-, h⟩ := grouped_cases c
  · rw [h]
  · rw [h]
    rfl
  · rw [h]

lemma hasLoose_conjoin {p : Expr} (hp : IsComparison p) (c : Expr) :
    hasLoose (conjoin c p) = hasLoose c := by
  obtain ⟨parts, s, rfl⟩ := hp
  rw [hasLoose, conjoin, Expr.collect, collect_grouped]
  simp [hasLoose, Expr.collect, looseOperators, isLoose]

lemma grouped_of_tight {c : Expr} (h : hasLoose c = false) : grouped c = c := by
  obtain ⟨e, -, hkept⟩ | ⟨hloose, -⟩ | ⟨-, hkept⟩ := grouped_cases c
  · exact hkept
  · rw [h] at hloose
    cases hloose
  · exact hkept

/-- No operator of a formula, outside of parentheses, is a loose sign. -/
def IsTight (f : Formula) : Prop := ∀ op, .operator (.sign op) ∈ f.row → isLoose op = false

lemma isTight_after {t : Tail} {left : Formula} (hleft : IsTight left)
    (hright : ∀ f ∈ t.right?, IsTight f) : IsTight (t.after left) := by
  obtain ⟨middle, right?⟩ := t
  intro op hop
  cases right? with
  | none =>
    rcases List.mem_append.mp hop with h | h
    · exact hleft op h
    · cases List.mem_singleton.mp h
  | some right =>
    rcases List.mem_append.mp hop with h | h
    · exact hleft op h
    · rcases List.mem_cons.mp h with h | h
      · cases h
      · exact hright right rfl op h

lemma isTight_alone {t : Tail} (hright : ∀ f ∈ t.right?, IsTight f) (pieces : List Piece) :
    IsTight (t.alone pieces) := by
  obtain ⟨middle, right?⟩ := t
  intro op hop
  cases right? with
  | none => cases List.mem_singleton.mp hop
  | some right =>
    rcases List.mem_cons.mp hop with h | h
    · cases h
    · exact hright right rfl op h

mutual

lemma isTight_formula : (e : Expr) → e.collect looseOperators = [] → IsTight e.formula
  | .name _, _ => fun _ hop => nomatch List.mem_singleton.mp hop
  | .value _, _ => fun _ hop => nomatch List.mem_singleton.mp hop
  | .binary l op r, h => by
    simp only [Expr.collect, List.append_eq_nil_iff] at h
    obtain ⟨⟨hnode, hl⟩, hr⟩ := h
    intro other hother
    rcases List.mem_append.mp hother with hmem | hmem
    · exact isTight_formula l hl other hmem
    · rcases List.mem_cons.mp hmem with heq | hmem
      · cases heq
        rw [looseOperators] at hnode
        split at hnode
        · cases hnode
        · rename_i htight
          exact Bool.eq_false_iff.mpr htight
      · exact isTight_formula r hr other hmem
  | .nested _, _ => fun _ hop => nomatch List.mem_singleton.mp hop
  | .call _ _, _ => fun _ hop => nomatch List.mem_singleton.mp hop
  | .form pieces, h => isTight_phraseFormula pieces h

lemma isTight_pieceFormula : (p : Piece) → p.collect looseOperators = [] →
    ∀ f ∈ pieceFormula? p, IsTight f
  | .text _, _ => nofun
  | .expr e, h => fun _ hf => Option.some.inj hf ▸ isTight_formula e h
  | .query _, _ => nofun
  | .table _, _ => nofun

lemma isTight_phraseFormula :
    (ps : List Piece) → collectPieces looseOperators ps = [] → IsTight (phraseFormula ps)
  | [], _ => fun _ hop => nomatch List.mem_singleton.mp hop
  | p :: ps, h => by
    obtain ⟨hp, hps⟩ := List.append_eq_nil_iff.mp h
    have htail := isTight_phraseTail ps hps
    rw [phraseFormula]
    split
    · rename_i left hleft
      exact isTight_after (isTight_pieceFormula p hp left hleft) htail
    · exact isTight_alone (t := (phraseTail ps).cons p) htail _

lemma isTight_phraseTail : (ps : List Piece) → collectPieces looseOperators ps = [] →
    ∀ f ∈ (phraseTail ps).right?, IsTight f
  | [], _ => nofun
  | p :: ps, h => by
    obtain ⟨hp, hps⟩ := List.append_eq_nil_iff.mp h
    rw [phraseTail]
    split
    · rename_i right hright _
      exact fun _ hf => Option.some.inj hf ▸ isTight_pieceFormula p hp right hright
    · exact isTight_phraseTail ps hps

end

lemma not_isLoose_of_open {P : Precedence} {c : Expr} (h : hasLoose c = false) {op : BinaryOp}
    (hop : .sign op ∈ (P.read c).openOperators) : isLoose op = false := by
  have hrow := operator_mem_row hop
  rw [Precedence.read, P.row_regrouped] at hrow
  exact isTight_formula c ((hasLoose_eq_false_iff c).mp h) op hrow

end Loose

section Reading

variable {P : Precedence} (hP : SplitsAtAnd P) {c p : Expr} {ps : List Expr}

lemma closed_grouped (h : hasLoose c = true ∨ P.Closed (.sign .and) (P.read c)) :
    P.Closed (.sign .and) (P.read (grouped c)) := by
  obtain ⟨e, rfl, hgrouped⟩ | ⟨-, hgrouped⟩ | ⟨htight, hgrouped⟩ := grouped_cases c
  · exact List.forall_mem_nil _
  · rw [hgrouped]
    exact List.forall_mem_nil _
  · rw [hgrouped]
    exact h.resolve_left (Bool.eq_false_iff.mp htight)

lemma isConjunction_grouped {fs : List Formula} (h : IsConjunction fs (P.read c)) :
    IsConjunction fs (P.read (grouped c)) := by
  obtain ⟨e, -, hgrouped⟩ | ⟨-, hgrouped⟩ | ⟨-, hgrouped⟩ := grouped_cases c
  · rwa [hgrouped]
  · rw [hgrouped]
    exact h.nested
  · rwa [hgrouped]

include hP

lemma read_conjoin (hp : IsComparison p) (h : P.Closed (.sign .and) (P.read (grouped c))) :
    P.read (conjoin c p) = .between (P.read (grouped c)) (.sign .and) (P.read p) := by
  obtain ⟨parts, s, rfl⟩ := hp
  exact Precedence.regrouped_between h (List.forall_mem_singleton.mpr hP.and_eq)

lemma closed_conjoin (hp : IsComparison p) (h : P.Closed (.sign .and) (P.read (grouped c))) :
    P.Closed (.sign .and) (P.read (conjoin c p)) := by
  rw [read_conjoin hP hp h]
  obtain ⟨parts, s, rfl⟩ := hp
  exact List.forall_mem_cons.mpr ⟨hP.and_and, List.forall_mem_singleton.mpr hP.eq_and⟩

lemma isConjunction_foldl_conjoin {fs : List Formula} (hps : ∀ p ∈ ps, IsComparison p)
    (h : hasLoose c = true ∨ P.Closed (.sign .and) (P.read c)) (hc : IsConjunction fs (P.read c)) :
    IsConjunction (fs ++ ps.map P.read) (P.read (ps.foldl conjoin c)) := by
  induction ps generalizing c fs with
  | nil =>
    rw [List.map_nil, List.append_nil]
    exact hc
  | cons p ps ih =>
    obtain ⟨hp, hrest⟩ := List.forall_mem_cons.mp hps
    have hclosed := closed_grouped h
    have hand : IsConjunction (fs ++ [P.read p]) (P.read (conjoin c p)) := by
      rw [read_conjoin hP hp hclosed]
      exact (isConjunction_grouped hc).and (P.read p)
    rw [List.map_cons, List.append_cons, List.foldl_cons]
    exact ih hrest (.inr (closed_conjoin hP hp hclosed)) hand

lemma stretches_conjoin {o : Operator} (hp : IsComparison p) (htight : hasLoose c = false)
    (ho : o ∈ (P.read c).openOperators) (hreach : P.reach o < P.strength (.sign .and)) :
    Precedence.Stretches (P.read c) (P.read (conjoin c p)) ∧
      o ∈ (P.read (conjoin c p)).openOperators := by
  obtain ⟨parts, s, rfl⟩ := hp
  rw [conjoin, grouped_of_tight htight]
  exact Precedence.stretches_regrouped_between ho hreach (List.forall_mem_singleton.mpr
    (Nat.lt_trans hreach (Nat.lt_of_le_of_lt hP.and_and hP.and_eq)))

/-- An operator that reaches beyond `AND` and is open at the end of a condition takes all predicates
in. -/
lemma stretches_foldl_conjoin {o : Operator} (hps : ∀ q ∈ p :: ps, IsComparison q)
    (htight : hasLoose c = false) (ho : o ∈ (P.read c).openOperators)
    (hreach : P.reach o < P.strength (.sign .and)) :
    Precedence.Stretches (P.read c) (P.read ((p :: ps).foldl conjoin c)) := by
  obtain ⟨hp, hrest⟩ := List.forall_mem_cons.mp hps
  obtain ⟨hfirst, hopen⟩ := stretches_conjoin hP hp htight ho hreach
  induction ps generalizing c p with
  | nil => exact hfirst
  | cons q ps ih =>
    have htight' : hasLoose (conjoin c p) = false := (hasLoose_conjoin hp c).trans htight
    obtain ⟨hq, hqs⟩ := List.forall_mem_cons.mp hrest
    obtain ⟨hsecond, hlast⟩ := stretches_conjoin hP hq htight' hopen hreach
    exact hfirst.trans (ih hrest htight' hopen hq hqs hsecond hlast)

/-- Predicates are joined to a condition just in case the condition is put in parentheses, or none of
the operators that are open at its end reaches beyond `AND`. -/
lemma isConjunction_extended_iff {c? : Option Expr} {e : Expr} (hps : ∀ p ∈ ps, IsComparison p)
    (he : extended c? ps = some e) :
    IsConjunction ((c?.toList ++ ps).map P.read) (P.read e) ↔
      ps = [] ∨ ∀ c ∈ c?, hasLoose c = true ∨ P.Closed (.sign .and) (P.read c) := by
  cases c? with
  | none =>
    refine iff_of_true ?_ (.inr nofun)
    cases ps with
    | nil => cases he
    | cons p ps =>
      obtain ⟨hp, hrest⟩ := List.forall_mem_cons.mp hps
      rw [extended, extended_some] at he
      rw [← Option.some.inj he]
      have hclosed : P.Closed (.sign .and) (P.read p) := by
        obtain ⟨parts, s, rfl⟩ := hp
        exact List.forall_mem_singleton.mpr hP.eq_and
      exact isConjunction_foldl_conjoin hP hrest (.inr hclosed) (.alone (P.read p))
  | some c =>
    rw [extended_some] at he
    rw [← Option.some.inj he]
    cases ps with
    | nil => exact iff_of_true (.alone (P.read c)) (.inl rfl)
    | cons p ps =>
      constructor
      · refine fun hconj => .inr fun c' hc' => ?_
        cases hc'
        cases htight : hasLoose c with
        | true => exact .inl rfl
        | false =>
          refine .inr fun o ho => Nat.not_lt.mp fun hreach => ?_
          exact IsConjunction.not_of_stretches (List.cons_ne_nil _ _)
            (stretches_foldl_conjoin hP hps htight ho hreach) hconj
      · rintro (hnil | h)
        · cases hnil
        · exact isConjunction_foldl_conjoin hP hps (h c rfl) (.alone (P.read c))

end Reading

lemma closed_server {c : Expr} (h : hasLoose c = false) :
    Precedence.server.Closed (.sign .and) (Precedence.server.read c) := by
  intro o ho
  apply Precedence.server_strength_and_le <;> rintro rfl <;> cases not_isLoose_of_open h ho

lemma closed_ofDialect_iff {d : Dialect} {c : Expr} (h : hasLoose c = false) :
    (Precedence.ofDialect d).Closed (.sign .and) ((Precedence.ofDialect d).read c) ↔
      ∀ o ∈ ((Precedence.ofDialect d).read c).openOperators, o.isGreedy d = false := by
  refine forall₂_congr fun o ho => Precedence.strength_and_le_reach_iff ?_
  rintro rfl
  cases not_isLoose_of_open h ho

lemma foldl_conjoin_of_tight {ps : List Expr} (hps : ∀ p ∈ ps, IsComparison p) {c : Expr}
    (h : hasLoose c = false) : ps.foldl conjoin c = ps.foldl (fun e p => .binary e .and p) c := by
  induction ps generalizing c with
  | nil => rfl
  | cons p ps ih =>
    obtain ⟨hp, hrest⟩ := List.forall_mem_cons.mp hps
    rw [List.foldl_cons, ih hrest ((hasLoose_conjoin hp c).trans h), conjoin, grouped_of_tight h]
    rfl

/-- A condition that has been extended by predicates, as its text is read. A MySQL server joins the
predicates to the condition. The parser does so just in case the condition is put in parentheses or
has no greedy operator open at its end. Without a loose operator the condition is kept as it is. -/
theorem isConjunction_extended {ps : List Expr} (hps : ∀ p ∈ ps, IsComparison p)
    {c? : Option Expr} {e : Expr} (he : extended c? ps = some e) :
    (∀ P : Precedence, (P.read e).row = e.formula.row) ∧
      String.join (e.formula.row.map RowItem.spelling) = e.spelling ∧
      IsConjunction ((c?.toList ++ ps).map Precedence.server.read) (Precedence.server.read e) ∧
      (∀ d, IsConjunction ((c?.toList ++ ps).map (Precedence.ofDialect d).read)
          ((Precedence.ofDialect d).read e) ↔
        ps = [] ∨ ∀ c ∈ c?, hasLoose c = true ∨
          ∀ o ∈ ((Precedence.ofDialect d).read c).openOperators, o.isGreedy d = false) ∧
      ∀ c ∈ c?, e = ps.foldl conjoin c ∧
        (hasLoose c = false → e = ps.foldl (fun e p => .binary e .and p) c) := by
  refine ⟨fun P => P.row_regrouped e.formula, ?_, ?_, fun d => ?_, ?_⟩
  · rw [join_row, spelling_formula]
  · refine (isConjunction_extended_iff splitsAtAnd_server hps he).mpr (.inr fun c _ => ?_)
    cases htight : hasLoose c with
    | true => exact .inl rfl
    | false => exact .inr (closed_server htight)
  · rw [isConjunction_extended_iff (splitsAtAnd_ofDialect d) hps he]
    refine or_congr_right (forall₂_congr fun c _ => ?_)
    cases htight : hasLoose c with
    | true => exact iff_of_true (.inl rfl) (.inl rfl)
    | false => exact or_congr_right (closed_ofDialect_iff htight)
  · rintro c rfl
    rw [extended_some] at he
    have hfold := (Option.some.inj he).symm
    exact ⟨hfold, fun htight => hfold.trans (foldl_conjoin_of_tight hps htight)⟩

/-- What the parser reads back, it reads back with predicates as scoping has put it together. -/
lemma read_extended_form {d : Dialect} {k : Nat} (hk : 2 ≤ k) {ps : List Expr}
    (hps : ∀ p ∈ ps, IsTest d p) {c? : Option Expr}
    (hc : ∀ c ∈ c?, ∃ ts, (Forms.within d k).expr 0 c ts) :
    ∀ e ∈ extended c? ps, (Precedence.ofDialect d).read e = e.formula := by
  intro e he
  obtain ⟨us, hus⟩ := extended_form hps hk hc e he
  exact read_of_form hus

section Greedy

/-- What is negated, if the expression is a negation. -/
def negated? : Expr → Option Expr
  | .form [.text "NOT ", .expr e] => some e
  | _ => none

/-- The tests of two tables after a condition with `OR`, and after one that ends in a division. -/
theorem isConjunction_extended_orders :
    let ps := [tenantPredicate [⟨"orders", none⟩] none "tenant_id" .one,
      tenantPredicate [⟨"items", none⟩] (some ⟨⟨"i", none⟩, []⟩) "tenant_id" .one]
    let either : Expr := .binary (.name [⟨"open", none⟩]) .or (.name [⟨"paid", none⟩])
    let halves : Expr := .binary (.name [⟨"total", none⟩]) (.other "DIV") (.value "2")
    (∃ e, extended (some either) ps = some e ∧ ∀ d,
        IsConjunction ((either :: ps).map (Precedence.ofDialect d).read)
          ((Precedence.ofDialect d).read e)) ∧
      ∃ e, extended (some halves) ps = some e ∧
        IsConjunction ((halves :: ps).map Precedence.server.read) (Precedence.server.read e) ∧
        ¬ IsConjunction ((halves :: ps).map (Precedence.ofDialect .mysql).read)
          ((Precedence.ofDialect .mysql).read e) := by
  intro ps either halves
  have hps : ∀ p ∈ ps, IsComparison p :=
    List.forall_mem_cons.mpr ⟨⟨_, _, rfl⟩, List.forall_mem_singleton.mpr ⟨_, _, rfl⟩⟩
  obtain ⟨-, -, -, heither, -⟩ := isConjunction_extended hps (extended_some either ps)
  obtain ⟨-, -, hserver, hhalves, -⟩ := isConjunction_extended hps (extended_some halves ps)
  refine ⟨⟨_, extended_some either ps, fun d => (heither d).mpr (.inr ?_)⟩,
    _, extended_some halves ps, hserver, mt (hhalves .mysql).mp ?_⟩
  · rintro _ ⟨⟩
    exact .inl (by decide)
  · rintro (hnil | hclosed)
    · exact List.cons_ne_nil _ _ hnil
    · rcases hclosed halves rfl with hloose | hgreedy
      · revert hloose
        decide
      · exact absurd (hgreedy _ List.mem_cons_self) (by decide)

/-- The parser reads the predicate as a part of what the condition negates. -/
theorem outcome_integerDivision :
    let condition := "NOT total DIV 2 = 1"
    let predicate := "orders.tenant_id = 1"
    (Policy.usualEnabled.outcome (some .one) ("SELECT * FROM orders WHERE " ++ condition)).toOption.map
        (fun o => o.sql) = some ("SELECT * FROM orders WHERE " ++ condition ++ " AND " ++ predicate) ∧
      ((Filter.condition .mysql (condition ++ " AND " ++ predicate)).toOption.bind negated?).map
        Expr.spelling = some ("total DIV 2 = 1 AND " ++ predicate) := by
  decide +kernel

end Greedy

end RowFence.Scope
