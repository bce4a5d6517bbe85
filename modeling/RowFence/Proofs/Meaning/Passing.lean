import Mathlib.Data.List.Basic
import RowFence.Proofs.Meaning.Tested

/-! The rows of a FROM clause that pass the tests left to its WHERE condition. -/

namespace RowFence.Meaning

open Sql Scope

variable {V : Type}

def keepsBoth : JoinOp → Bool
  | .leftSemi | .rightSemi | .leftAnti | .rightAnti => false
  | _ => true

namespace Layout

/-- Layouts whose rows show a row at each place, under a name that can be asked for. -/
def isPaired : Layout → Bool
  | .unit => true
  | .base place _ => !place.name.isEmpty
  | .derived _ => true
  | .nested inner alias? => alias?.isNone && inner.isPaired
  | .join op _ l r => keepsBoth op && l.isPaired && r.isPaired

def pending (v : View) (placement : Placement) : Layout → List Occurrence
  | .unit => []
  | .base place _ => if v.exempts place.name then [] else [place]
  | .derived _ => []
  | .nested inner _ => inner.pending v placement
  | .join _ hasOn l r =>
    l.pending v placement ++ if takesTests placement hasOn r.isBase then [] else r.pending v placement

end Layout

structure Keeps (pass : Frame V → Bool) (S S' : Source V) : Prop where
  blank : S.blank = S'.blank
  rows : S.rows.filter pass = S'.rows

/-- A row is built as its FROM clause is. -/
inductive Fits : Layout → Frame V → Prop where
  | unit : Fits .unit .empty
  | base {place : Occurrence} {bare : Bool} {b : Bound V} (h : b.occurrence = place) :
      Fits (.base place bare) (.item b)
  | derived {alias? : Option TableAlias} {b : Bound V} (h : b.occurrence = ⟨[], alias?⟩) :
      Fits (.derived alias?) (.item b)
  | nested {inner : Layout} {f : Frame V} (h : Fits inner f) : Fits (.nested inner none) f
  | join {op op' : JoinOp} {hasOn : Bool} {merge : Merge} {l r : Layout} {f g : Frame V}
      (hl : Fits l f) (hr : Fits r g) : Fits (.join op hasOn l r) (.join op' merge f g)

lemma Fits.items {L : Layout} {f : Frame V} (h : Fits L f) :
    f.items.map (·.occurrence) = L.places := by
  induction h with
  | unit => rfl
  | base h => exact congrArg (fun o => [o]) h
  | derived h => exact congrArg (fun o => [o]) h
  | nested _ ih => exact ih
  | join _ _ ihl ihr => rw [Frame.items, List.map_append, ihl, ihr, Layout.places]

namespace Engine

variable (E : Engine V) {D : Store V} {c : Common V} {env : Env V}

lemma fits_placed {L : Layout} {place : Occurrence} {stored : Bool} {columns : List String}
    {rows : List (List V)} (h : ∀ b : Bound V, b.occurrence = place → Fits L (.item b)) :
    Fits L (E.placed place stored columns rows).blank ∧
      ∀ f ∈ (E.placed place stored columns rows).rows, Fits L f := by
  refine ⟨h _ rfl, fun f hf => ?_⟩
  obtain ⟨values, -, rfl⟩ := List.mem_map.mp hf
  exact h _ rfl

lemma forall_mem_padded {Q : Frame V → Prop} {blank : Frame V} {rows : List (Frame V)}
    (hblank : Q blank) (hrows : ∀ g ∈ rows, Q g) : ∀ g ∈ padded blank rows, Q g := by
  intro g hg
  unfold padded at hg
  split at hg
  · rw [List.mem_singleton.mp hg]
    exact hblank
  · exact hrows g hg

lemma forall_mem_pairs {P Q R : Frame V → Prop} {op : JoinOp} {link : Link V} {first : Source V}
    {kept : Frame V → List (Frame V)} (hfirst : ∀ f ∈ first.rows, P f) (hkept : ∀ f, ∀ g ∈ kept f, Q g)
    (hpair : ∀ f g, P f → Q g → R (.join op link.merged f g)) :
    ∀ f ∈ pairs op link first kept, R f := by
  intro f hf
  obtain ⟨l, hl, hf⟩ := List.mem_flatMap.mp hf
  obtain ⟨g, hg, rfl⟩ := List.mem_map.mp hf
  exact hpair l g (hfirst l hl) (hkept l g hg)

/-- The rows of a join are pairs of rows of its tables, or rows of one of them. -/
lemma joined_forall {op : JoinOp} (link : Link V) {first : Source V} {second : Frame V → Source V}
    {P Q R : Frame V → Prop} (hfirst : P first.blank ∧ ∀ f ∈ first.rows, P f)
    (hsecond : ∀ l, Q (second l).blank ∧ ∀ g ∈ (second l).rows, Q g)
    (hpair : ∀ f g, P f → Q g → R (.join op link.merged f g))
    (hone : keepsBoth op = false → (∀ f, P f → R f) ∧ ∀ g, Q g → R g) (matching : Option (Term V)) :
    R (E.joined env op link first second matching).blank ∧
      ∀ f ∈ (E.joined env op link first second matching).rows, R f := by
  have hhits : ∀ f, ∀ g ∈ E.hits env op link second f, Q g :=
    fun f g hg => (hsecond f).2 g (List.mem_filter.mp hg).1
  have hinner := forall_mem_pairs hfirst.2 hhits hpair
  have houter := forall_mem_pairs hfirst.2
    (fun f => forall_mem_padded (hsecond f).1 (hhits f)) hpair
  have hnearest := forall_mem_pairs hfirst.2 (fun f g hg => hhits f g
    (List.mem_filter (p := E.nearest matching env f (E.hits env op link second f)).mp hg).1) hpair
  have hlone : ∀ f ∈ E.lone env op link first second, R f := by
    intro f hf
    obtain ⟨g, hg, rfl⟩ := List.mem_map.mp hf
    exact hpair _ g hfirst.1 ((hsecond _).2 g (List.mem_filter.mp hg).1)
  have hblank := hpair _ _ hfirst.1 (hsecond first.blank).1
  cases op with
  | inner | cross | crossApply => exact ⟨hblank, hinner⟩
  | left | outerApply => exact ⟨hblank, houter⟩
  | right => exact ⟨hblank, List.forall_mem_append.mpr ⟨hinner, hlone⟩⟩
  | full => exact ⟨hblank, List.forall_mem_append.mpr ⟨houter, hlone⟩⟩
  | asOf => exact ⟨hblank, hnearest⟩
  | leftSemi | leftAnti =>
    have hleft := (hone rfl).1
    exact ⟨hleft _ hfirst.1, fun f hf => hleft f (hfirst.2 f (List.mem_filter.mp hf).1)⟩
  | rightSemi | rightAnti =>
    have hright := (hone rfl).2
    exact ⟨hright _ (hsecond _).1, fun f hf => hright f ((hsecond _).2 f (List.mem_filter.mp hf).1)⟩

lemma fits_source (p : Plan V) (h : p.layout.isPaired = true) (left : Frame V) :
    Fits p.layout (E.source D c env p left).blank ∧
      ∀ f ∈ (E.source D c env p left).rows, Fits p.layout f := by
  induction p generalizing left with
  | unit =>
    refine ⟨.unit, fun f hf => ?_⟩
    rw [List.mem_singleton.mp hf]
    exact .unit
  | base place access? => exact fits_placed E fun b hb => .base hb
  | derived lateral query alias? => exact fits_placed E fun b hb => .derived hb
  | nested inner alias? ih =>
    rw [Plan.layout, Layout.isPaired, Bool.and_eq_true, Option.isNone_iff_eq_none] at h
    obtain ⟨rfl, hinner⟩ := h
    obtain ⟨hblank, hrows⟩ := ih hinner left
    exact ⟨.nested hblank, fun f hf => .nested (hrows f hf)⟩
  | join op matching link l r ihl ihr =>
    rw [Plan.layout, Layout.isPaired, Bool.and_eq_true, Bool.and_eq_true] at h
    obtain ⟨⟨hop, hl⟩, hr⟩ := h
    exact E.joined_forall link (ihl hl left) (fun f => ihr hr _) (fun f g => .join)
      (fun hone => absurd (hop.symm.trans hone) (by decide)) matching

end Engine

lemma filter_pairs {P Q R : Frame V → Bool} {op : JoinOp} {link : Link V} {first : Source V}
    (h : ∀ f g, R (.join op link.merged f g) = (P f && Q g)) (kept : Frame V → List (Frame V)) :
    (pairs op link first kept).filter R =
      (first.rows.filter P).flatMap fun f => ((kept f).filter Q).map (.join op link.merged f) := by
  have hpair : ∀ f, R ∘ Frame.join op link.merged f = fun g => P f && Q g := fun f => funext (h f)
  unfold pairs
  induction first.rows with
  | nil => rfl
  | cons f fs ih =>
    rw [List.flatMap_cons, List.filter_append, ih, List.filter_map, hpair, List.filter_cons]
    cases P f with
    | true =>
      rw [if_pos rfl, List.flatMap_cons]
      simp only [Bool.true_and]
    | false =>
      simp only [Bool.false_and, List.filter_false, List.map_nil, List.nil_append,
        Bool.false_eq_true, if_false]

section Names

lemma Occurrence.isApart_comm (a b : Occurrence) : a.isApart b = b.isApart a := by
  unfold Occurrence.isApart
  rw [Bool.or_comm a.path.isEmpty, Bool.or_comm (a.path.isSuffixOf b.path)]

lemma answers_of_isApart {a : Occurrence} {b : Bound V} (ha : a.qualifier ≠ [])
    (h : a.isApart b.occurrence = true) : b.answers a.qualifier = false := by
  have hpath : a.path ≠ [] := mt List.map_eq_nil_iff.mp ha
  have hsuffix : ¬ a.path <:+ b.path := by
    intro hs
    have hb : b.path ≠ [] := fun hnil => hpath (List.suffix_nil.mp (hnil ▸ hs))
    simp only [Occurrence.isApart, Bool.or_eq_true, Bool.not_eq_true', Bool.or_eq_false_iff,
      List.isEmpty_iff] at h
    obtain (h | h) | h := h
    · exact hpath h
    · exact hb h
    · exact Bool.eq_false_iff.mp h.1 (List.isSuffixOf_iff_suffix.mpr hs)
  unfold Bound.answers
  rw [Bool.and_eq_false_iff, Bool.eq_false_iff (b := List.isSuffixOf _ _)]
  exact .inr (mt List.isSuffixOf_iff_suffix.mp hsuffix)

lemma answers_self {b : Bound V} (h : b.occurrence.qualifier ≠ []) :
    b.answers b.occurrence.qualifier = true := by
  unfold Bound.answers
  rw [Bool.and_eq_true, List.isSuffixOf_iff_suffix]
  exact ⟨by simpa using h, List.suffix_rfl⟩

lemma isDistinct_cons {a : Occurrence} {rest : List Occurrence} (h : isDistinct (a :: rest) = true) :
    (∀ b ∈ rest, a.isApart b = true) ∧ isDistinct rest = true := by
  rw [isDistinct, Bool.and_eq_true, List.all_eq_true] at h
  exact h

lemma isDistinct_append {as bs : List Occurrence} (h : isDistinct (as ++ bs) = true) :
    isDistinct as = true ∧ isDistinct bs = true := by
  induction as with
  | nil => exact ⟨rfl, h⟩
  | cons a as ih =>
    obtain ⟨hapart, hrest⟩ := isDistinct_cons h
    obtain ⟨has, hbs⟩ := ih hrest
    refine ⟨?_, hbs⟩
    rw [isDistinct, has, Bool.and_true, List.all_eq_true]
    exact fun b hb => hapart b (List.mem_append_left bs hb)

lemma filter_answers {items : List (Bound V)} (h : isDistinct (items.map (·.occurrence)) = true)
    {b : Bound V} (hb : b ∈ items) (hname : b.occurrence.qualifier ≠ []) :
    items.filter (·.answers b.occurrence.qualifier) = [b] := by
  induction items with
  | nil => cases hb
  | cons a rest ih =>
    obtain ⟨hapart, hrest⟩ := isDistinct_cons h
    cases hb with
    | head =>
      have hnone : rest.filter (·.answers b.occurrence.qualifier) = [] := by
        refine List.filter_eq_nil_iff.mpr fun d hd => ?_
        rw [answers_of_isApart hname (hapart _ (List.mem_map_of_mem hd))]
        exact Bool.false_ne_true
      rw [List.filter_cons, if_pos (answers_self hname), hnone]
    | tail _ hb =>
      have happ : b.occurrence.isApart a.occurrence = true := by
        rw [Occurrence.isApart_comm]
        exact hapart _ (List.mem_map_of_mem hb)
      rw [List.filter_cons, answers_of_isApart hname happ, ih hrest hb]
      rfl

end Names

namespace Engine

variable (E : Engine V)

lemma isTrue_test (v : View) {f : Frame V} (h : isDistinct (f.items.map (·.occurrence)) = true)
    {b : Bound V} (hb : b ∈ f.items) (hname : b.occurrence.qualifier ≠ []) (group : List (Frame V))
    (env : Env V) :
    E.isTrue ((E.test v b.occurrence).value (⟨f, group⟩ :: env)) =
      E.owns v.policy v.tenant b.columns b.values := by
  have hvalue := E.name_qualified ⟨f, group⟩ env b.occurrence.qualifier
    ⟨v.policy.tenantColumn, none⟩ b (filter_answers h hb hname)
  unfold test owns
  simp only [hvalue]

lemma isTrue_and (a b : V) : E.isTrue (E.binary .and a b) = (E.isTrue a && E.isTrue b) := by
  unfold isTrue
  rw [E.truth_and]
  rcases E.truth a with _ | _ | _ <;> rcases E.truth b with _ | _ | _ <;> rfl

lemma isTrue_foldl_both (ts : List (Term V)) (s : Term V) (env : Env V) :
    E.isTrue ((ts.foldl E.both s).value env) =
      (E.isTrue (s.value env) && ts.all fun t => E.isTrue (t.value env)) := by
  induction ts generalizing s with
  | nil => rw [List.foldl_nil, List.all_nil, Bool.and_true]
  | cons t ts ih => rw [List.foldl_cons, ih, both, isTrue_and, List.all_cons, Bool.and_assoc]

lemma holds_extend (ts : List (Term V)) (condition : Option (Term V)) (env : Env V) :
    E.holds (E.extend condition ts) env =
      (E.holds condition env && ts.all fun t => E.isTrue (t.value env)) := by
  induction ts generalizing condition with
  | nil =>
    rw [List.all_nil, Bool.and_true]
    cases condition <;> rfl
  | cons t ts ih =>
    rw [List.all_cons]
    cases condition with
    | none => rw [extend, ih, holds, holds, Bool.true_and]
    | some s => rw [extend, ih, holds, holds, both, isTrue_and, Bool.and_assoc]

section Tests

variable (v : View) (placement : Placement)

lemma tests_eq (place : Occurrence) :
    E.tests v place = (if v.exempts place.name then [] else [place]).map (E.test v) := by
  unfold tests
  split <;> rfl

lemma hasOn_divided (link : Link V) (isBase : Bool) (ts : List (Term V)) :
    (E.divided placement link isBase ts).1.hasOn = link.hasOn := by
  unfold divided
  split
  · cases link <;> rfl
  · rfl

lemma tested_layout (p : Plan V) : (E.tested v placement p).1.layout = p.layout := by
  induction p with
  | unit => rfl
  | base place access? => rfl
  | derived lateral query alias? => rfl
  | nested inner alias? ih => exact congrArg (Layout.nested · alias?) ih
  | join op matching link l r ihl ihr =>
    simp only [tested, Plan.layout, hasOn_divided, ihl, ihr]

lemma tested_pending (p : Plan V) :
    (E.tested v placement p).2 = (p.layout.pending v placement).map (E.test v) := by
  induction p with
  | unit => rfl
  | base place access? => rw [tested, Plan.layout, Layout.pending, tests_eq]
  | derived lateral query alias? => rw [tested, Plan.layout, Layout.pending, List.map_nil]
  | nested inner alias? ih => rw [tested, Plan.layout, Layout.pending, ih]
  | join op matching link l r ihl ihr =>
    simp only [tested, divided, Plan.layout, Layout.pending, Plan.isBase_layout, List.map_append, ihl]
    split
    · rfl
    · rw [ihr]

/-- Whether the rows that a row of a FROM clause shows belong to the tenant, where this is tested in
the WHERE condition. -/
def passes : Layout → Frame V → Bool
  | .base place _, .item b => v.exempts place.name || E.owns v.policy v.tenant b.columns b.values
  | .nested inner _, f => passes inner f
  | .join _ hasOn l r, .join _ _ f g =>
    passes l f && (takesTests placement hasOn r.isBase || passes r g)
  | _, _ => true

lemma passes_unit (f : Frame V) : E.passes v placement .unit f = true := by
  simp only [passes]

lemma passes_derived (alias? : Option TableAlias) (f : Frame V) :
    E.passes v placement (.derived alias?) f = true := by
  simp only [passes]

lemma passes_nested (inner : Layout) (alias? : Option TableAlias) (f : Frame V) :
    E.passes v placement (.nested inner alias?) f = E.passes v placement inner f := by
  simp only [passes]

lemma passes_join (op op' : JoinOp) (hasOn : Bool) (merge : Merge) (l r : Layout) (f g : Frame V) :
    E.passes v placement (.join op hasOn l r) (.join op' merge f g) =
      (E.passes v placement l f &&
        (takesTests placement hasOn r.isBase || E.passes v placement r g)) := by
  rw [passes]

lemma fits_tested (D : Store V) (c : Common V) (env : Env V) (p : Plan V)
    (h : p.layout.isPaired = true) (left : Frame V) :
    ∀ f ∈ (E.source D c env (E.tested v placement p).1 left).rows, Fits p.layout f := by
  rw [← E.tested_layout v placement p] at h ⊢
  exact (E.fits_source _ h left).2

variable {v placement} {env : Env V}

lemma all_pending {L : Layout} (hL : L.isPaired = true) {f : Frame V} (hf : Fits L f) {F : Frame V}
    (hF : isDistinct (F.items.map (·.occurrence)) = true) (hsub : f.items ⊆ F.items) :
    ((L.pending v placement).all fun o => E.isTrue ((E.test v o).value (⟨F, []⟩ :: env))) =
      E.passes v placement L f := by
  induction hf with
  | unit => rfl
  | derived h => rfl
  | @base place bare b h =>
    subst h
    rw [Layout.pending, passes]
    split
    · rename_i hexempt
      rw [hexempt, List.all_nil, Bool.true_or]
    · rename_i hexempt
      have hname : b.occurrence.qualifier ≠ [] := by
        unfold Occurrence.qualifier
        split
        · exact List.cons_ne_nil _ _
        · simpa [Layout.isPaired] using hL
      rw [List.all_cons, List.all_nil, Bool.and_true,
        E.isTrue_test v hF (hsub (List.mem_singleton_self b)) hname, Bool.eq_false_iff.mpr hexempt,
        Bool.false_or]
  | @nested inner f h ih =>
    rw [Layout.isPaired, Bool.and_eq_true] at hL
    exact ih hL.2 hsub
  | @join op op' hasOn merge l r f g hl hr ihl ihr =>
    rw [Layout.isPaired, Bool.and_eq_true, Bool.and_eq_true] at hL
    have hleft := ihl hL.1.2 fun b hb => hsub (List.mem_append_left _ hb)
    have hright := ihr hL.2 fun b hb => hsub (List.mem_append_right _ hb)
    rw [Layout.pending, List.all_append, hleft, passes]
    split
    · rename_i htakes
      rw [htakes, Bool.true_or, List.all_nil]
    · rename_i htakes
      rw [Bool.eq_false_iff.mpr htakes, Bool.false_or, hright]

lemma holds_tested (p : Plan V) (hp : p.layout.isPaired = true)
    (hd : isDistinct p.layout.places = true) {f : Frame V} (hf : Fits p.layout f)
    (condition : Option (Term V)) :
    E.holds (E.extend condition (E.tested v placement p).2) (⟨f, []⟩ :: env) =
      (E.holds condition (⟨f, []⟩ :: env) && E.passes v placement p.layout f) := by
  rw [holds_extend, tested_pending, List.all_map]
  congr 1
  refine E.all_pending hp hf ?_ (fun b hb => hb)
  rw [hf.items]
  exact hd

lemma fetch_tested (D : Store V) (c : Common V) (env : Env V) (p : Plan V)
    (hp : p.layout.isPaired = true) (hd : isDistinct p.layout.places = true)
    (condition : Option (Term V)) :
    let S := E.source D c env (E.tested v placement p).1 .empty
    E.fetch D c env (E.tested v placement p).1 (E.extend condition (E.tested v placement p).2) =
      ⟨S.blank, (S.rows.filter (E.passes v placement p.layout)).filter
        fun f => E.holds condition (⟨f, []⟩ :: env)⟩ := by
  have hfits := E.fits_tested v placement D c env p hp .empty
  simp only [fetch]
  rw [List.filter_filter]
  refine congrArg (Source.mk _) (List.filter_congr fun f hf => ?_)
  exact E.holds_tested p hp hd (hfits f hf) condition

lemma links_divided (op : JoinOp) (link : Link V) (p : Plan V) (hp : p.layout.isPaired = true)
    {L : Layout} {f g : Frame V} (hf : Fits L f) (hg : Fits p.layout g)
    (hd : isDistinct (L.places ++ p.layout.places) = true) :
    E.links env op (E.divided placement link p.isBase (E.tested v placement p).2).1 f g =
      (E.links env op link f g &&
        (!takesTests placement link.hasOn p.isBase || E.passes v placement p.layout g)) := by
  unfold divided
  split
  · rename_i htakes
    rw [htakes, Bool.not_true, Bool.false_or]
    cases link with
    | merge m =>
      rw [takesTests, Link.hasOn, Bool.and_false] at htakes
      exact absurd htakes Bool.false_ne_true
    | on s =>
      rw [extendLink, links, isTrue_foldl_both, links, tested_pending, List.all_map]
      congr 1
      refine E.all_pending hp hg ?_ fun b hb => List.mem_append_right _ hb
      rw [Frame.items, List.map_append, hf.items, hg.items]
      exact hd
  · rename_i htakes
    rw [Bool.eq_false_iff.mpr htakes, Bool.not_false, Bool.true_or, Bool.and_true]

end Tests

end Engine

end RowFence.Meaning
