import RowFence.Proofs.Meaning.Passing

/-! Which table a name means, and what scoping leaves of its rows. -/

namespace RowFence.Meaning

open Sql Scope

variable {V : Type} (p : Policy) (t : TenantId) (c : Common V)

/-- The common table that a name means by its path. -/
def Common.find? (c : Common V) : List String → Option (Table V)
  | [key] => c.reverse.lookup key
  | _ => none

lemma lookup_eq (D : Store V) (name : Name) : lookup D c name =
    ((c.find? (Name.folded name)).map (·, false)).getD (D (Name.folded name), true) := by
  unfold lookup
  generalize Name.folded name = path
  rcases path with _ | ⟨key, _ | ⟨next, rest⟩⟩
  · rfl
  · simp only [Common.find?]
    cases c.reverse.lookup key <;> rfl
  · rfl

lemma lookup_nil (D : Store V) (name : Name) :
    lookup D [] name = (D (Name.folded name), true) := by
  rw [lookup_eq]
  rcases Name.folded name with _ | ⟨key, _ | ⟨next, rest⟩⟩ <;> rfl

lemma lookup_of_stored (D : Store V) (name : Name) (h : (lookup D c name).2 = true) :
    (lookup D c name).1 = D (Name.folded name) := by
  rw [lookup_eq] at h ⊢
  cases hfind : c.find? (Name.folded name) with
  | none => rfl
  | some table =>
    rw [hfind] at h
    exact absurd h Bool.false_ne_true

lemma hides_eq {n : Name} (h : n.isPlain = true) :
    (viewOf p t c).hides n = (c.find? (Name.folded n)).isSome := by
  match n, h with
  | [], _ => rfl
  | _ :: _ :: _, _ => rfl
  | [i], h =>
    have hplain : isPlainName i = true := by
      rw [Name.isPlain, Bool.and_eq_true, List.all_eq_true] at h
      exact h.2 i (List.mem_singleton_self i)
    have hname : TableName.ofReference (Name.spelling [i]) = ⟨i.folded⟩ :=
      TableName.ofReference_spelling hplain []
    have hhidden :
        (viewOf p t c).hidden.contains ⟨i.folded⟩ = (c.reverse.lookup i.folded).isSome := by
      rw [Bool.eq_iff_iff, List.contains_iff_mem, List.lookup_isSome_iff, viewOf, List.mem_map]
      constructor
      · rintro ⟨x, hx, he⟩
        exact ⟨x, List.mem_reverse.mpr hx, beq_iff_eq.mpr (TableName.mk.inj he).symm⟩
      · rintro ⟨x, hx, he⟩
        exact ⟨x, List.mem_reverse.mp hx, congrArg TableName.mk (beq_iff_eq.mp he).symm⟩
    rw [View.hides, hname, hhidden]
    rfl

lemma lookup_of_hides {n : Name} (h : n.isPlain = true) (hh : (viewOf p t c).hides n = true)
    (D D' : Store V) : lookup D c n = lookup D' c n := by
  rw [hides_eq p t c h] at hh
  obtain ⟨table, htable⟩ := Option.isSome_iff_exists.mp hh
  rw [lookup_eq, lookup_eq, htable]
  rfl

lemma lookup_of_not_hides {n : Name} (h : n.isPlain = true) (hh : (viewOf p t c).hides n = false)
    (D : Store V) : lookup D c n = (D (Name.folded n), true) := by
  rw [hides_eq p t c h, Option.isSome_eq_false_iff, Option.isNone_iff_eq_none] at hh
  rw [lookup_eq, hh]
  rfl

/-- A place at which a table stands under a plain name, its columns under their own names. -/
def Occurrence.isPlain (o : Occurrence) : Bool :=
  o.name.isPlain && o.alias?.all (·.columns.isEmpty)

def isStandardJoin : JoinOp → Bool
  | .inner | .left | .right | .full | .cross => true
  | _ => false

def Layout.isStandard : Layout → Bool
  | .unit => true
  | .base place bare => bare && place.isPlain
  | .derived _ => true
  | .nested inner alias? => alias?.isNone && inner.isStandard
  | .join op _ l r => isStandardJoin op && l.isStandard && r.isStandard

lemma isStandard_base {place : Occurrence} {access? : Option (Env V → List (List V) → List (List V))}
    (h : (Plan.base place access?).layout.isStandard = true) :
    access? = none ∧ place.isPlain = true := by
  rw [Plan.layout, Layout.isStandard, Bool.and_eq_true, Option.isNone_iff_eq_none] at h
  exact h

lemma isStandard_nested {inner : Plan V} {alias? : Option TableAlias}
    (h : (Plan.nested inner alias?).layout.isStandard = true) :
    alias? = none ∧ inner.layout.isStandard = true := by
  rw [Plan.layout, Layout.isStandard, Bool.and_eq_true, Option.isNone_iff_eq_none] at h
  exact h

lemma isStandard_join {op : JoinOp} {hasOn : Bool} {L M : Layout}
    (h : (Layout.join op hasOn L M).isStandard = true) :
    isStandardJoin op = true ∧ L.isStandard = true ∧ M.isStandard = true := by
  rw [Layout.isStandard, Bool.and_eq_true, Bool.and_eq_true] at h
  exact ⟨h.1.1, h.1.2, h.2⟩

lemma isPaired_of_isStandard {L : Layout} (h : L.isStandard = true) : L.isPaired = true := by
  induction L with
  | unit => rfl
  | base place bare =>
    simp only [Layout.isStandard, Occurrence.isPlain, Name.isPlain, Bool.and_eq_true] at h
    exact h.2.1.1
  | derived alias? => rfl
  | nested inner alias? ih =>
    rw [Layout.isStandard, Bool.and_eq_true] at h
    rw [Layout.isPaired, h.1, ih h.2]
    rfl
  | join op hasOn l r ihl ihr =>
    obtain ⟨hstandard, hl, hr⟩ := isStandard_join h
    have hop : keepsBoth op = true := by
      cases op with
      | inner | left | right | full | cross => rfl
      | _ => exact absurd hstandard Bool.false_ne_true
    rw [Layout.isPaired, hop, ihl hl, ihr hr]
    rfl

lemma renamedColumns_eq {alias? : Option TableAlias} (h : alias?.all (·.columns.isEmpty) = true)
    (columns : List String) : renamedColumns alias? columns = columns := by
  cases alias? with
  | none => rfl
  | some a =>
    rw [Option.all_some, List.isEmpty_iff] at h
    rw [renamedColumns, h]
    rfl

section Views

variable (E : Engine V) (D : Store V)

lemma view_of_excluded {path : List String}
    (h : p.excludesTable (".".intercalate path) = true) : E.view p t D path = D path :=
  if_pos h

lemma view_of_not_excluded {path : List String}
    (h : p.excludesTable (".".intercalate path) = false) : E.view p t D path =
      ⟨(D path).columns, (D path).rows.filter (E.owns p t (D path).columns)⟩ :=
  if_neg (Bool.eq_false_iff.mp h)

lemma lookup_view {n : Name} (h : n.isPlain = true) :
    lookup (E.view p t D) c n =
      let (table, stored) := lookup D c n
      ({ table with rows := table.rows.filter fun values =>
          (viewOf p t c).exempts n || E.owns p t table.columns values }, stored) := by
  cases hh : (viewOf p t c).hides n with
  | true =>
    rw [lookup_of_hides p t c h hh (E.view p t D) D]
    simp only [View.exempts, hh, Bool.or_true, Bool.true_or, List.filter_true]
  | false =>
    rw [lookup_of_not_hides p t c h hh, lookup_of_not_hides p t c h hh]
    cases he : p.excludesTable (Name.spelling n) with
    | true =>
      rw [view_of_excluded p t E D ((p.excludesTable_folded h).trans he)]
      have hexempt : (viewOf p t c).exempts n = true := by
        rw [View.exempts, hh, Bool.or_false]
        exact he
      simp only [hexempt, Bool.true_or, List.filter_true]
    | false =>
      rw [view_of_not_excluded p t E D ((p.excludesTable_folded h).trans he)]
      have hexempt : (viewOf p t c).exempts n = false := by
        rw [View.exempts, hh, Bool.or_false]
        exact he
      simp only [hexempt, Bool.false_or]

lemma source_base_view {place : Occurrence} (h : place.isPlain = true) (placement : Placement)
    (env : Env V) (left : Frame V) :
    Keeps (E.passes (viewOf p t c) placement (.base place true))
      (E.source D c env (.base place none) left)
      (E.source (E.view p t D) c env (.base place none) left) := by
  rw [Occurrence.isPlain, Bool.and_eq_true] at h
  constructor
  · simp only [Engine.source, renamedColumns_eq h.2, lookup_view p t c E D h.1, Engine.placed]
  · simp only [Engine.source, renamedColumns_eq h.2, lookup_view p t c E D h.1, Engine.placed,
      List.filter_map, Function.comp_def, Engine.passes, viewOf]

end Views

end RowFence.Meaning
