import RowFence.Proofs.Meaning.Lookup
import RowFence.Proofs.Meaning.Scoping

/-! What a scoped query shows of the rows of other tenants. It shows nothing of them, as long as no
join keeps rows of its right table for which only its ON condition asks. -/

namespace RowFence.Meaning

open Sql Scope

variable {V : Type}

def keepsRight : JoinOp → Bool
  | .right | .full => true
  | _ => false

/-- Whether each join that keeps all rows of its right table, and tests them in its ON condition
only, has a table to its left that is tested in the WHERE condition. -/
def Layout.isTight (v : View) : Layout → Bool
  | .unit => true
  | .base .. => true
  | .derived _ => true
  | .nested inner _ => inner.isTight v
  | .join op hasOn l r =>
    l.isTight v && r.isTight v &&
      (!(keepsRight op && takesTests .joinCondition hasOn r.isBase) ||
        (r.pending v .joinCondition).isEmpty || !(l.pending v .joinCondition).isEmpty)

def tightFit (v : View) (L : Layout) : Bool := L.isStandard && isDistinct L.places && L.isTight v

/-- Databases with the same excluded tables, and the same rows of the tenant in every table. -/
structure Agree (E : Engine V) (p : Policy) (t : TenantId) (D D' : Store V) : Prop where
  excluded : ∀ path, p.excludesTable (".".intercalate path) = true → D path = D' path
  columns : ∀ path, (D path).columns = (D' path).columns
  owned : ∀ path, (D path).rows.filter (E.owns p t (D path).columns) =
    (D' path).rows.filter (E.owns p t (D' path).columns)

lemma Agree.view {E : Engine V} {p : Policy} {t : TenantId} {D D' : Store V}
    (h : Agree E p t D D') : E.view p t D = E.view p t D' := by
  funext path
  cases he : p.excludesTable (".".intercalate path) with
  | true => rw [view_of_excluded p t E D he, view_of_excluded p t E D' he, h.excluded path he]
  | false =>
    rw [view_of_not_excluded p t E D he, view_of_not_excluded p t E D' he, h.owned path,
      h.columns path]

structure Alike (pass : Frame V → Bool) (S S' : Source V) : Prop where
  blank : S.blank = S'.blank
  rows : S.rows.filter pass = S'.rows.filter pass

lemma Keeps.alike {pass : Frame V → Bool} {S S' K : Source V} (h : Keeps pass S K)
    (h' : Keeps pass S' K) : Alike pass S S' :=
  ⟨h.blank.trans h'.blank.symm, h.rows.trans h'.rows.symm⟩

section Joins

variable {pass passL passR : Frame V → Bool} {takes : Bool} {op : JoinOp} {link : Link V}
  {first first' : Source V} {second second' : Frame V → Source V} {env : Env V} (E : Engine V)

/-- A source passes as a whole, or its row of nulls does not pass. -/
def IsSieve (pass : Frame V → Bool) (blank : Frame V) : Prop :=
  (∀ f, pass f = true) ∨ pass blank = false

lemma Alike.rows_eq {S S' : Source V} (h : Alike pass S S') (hall : ∀ f, pass f = true) :
    S.rows = S'.rows := by
  have hrows := h.rows
  rwa [List.filter_eq_self.mpr fun f _ => hall f, List.filter_eq_self.mpr fun f _ => hall f] at hrows

lemma hits_filter {f : Frame V} {S : Source V}
    (h : takes = true → ∀ g ∈ S.rows, E.links env op link f g = true → passR g = true) :
    (S.rows.filter (E.links env op link f)).filter (fun g => takes || passR g) =
      (S.rows.filter passR).filter (E.links env op link f) := by
  rw [List.filter_filter, List.filter_filter]
  refine List.filter_congr fun g hg => ?_
  cases takes with
  | false => rw [Bool.false_or, Bool.and_comm]
  | true =>
    cases hlink : E.links env op link f g with
    | false => rw [Bool.and_false, Bool.false_and]
    | true => rw [h rfl g hg hlink]; rfl

lemma Alike.hits {f : Frame V} {S S' : Source V} (h : Alike passR S S')
    (hS : takes = true → ∀ g ∈ S.rows, E.links env op link f g = true → passR g = true)
    (hS' : takes = true → ∀ g ∈ S'.rows, E.links env op link f g = true → passR g = true) :
    (S.rows.filter (E.links env op link f)).filter (fun g => takes || passR g) =
      (S'.rows.filter (E.links env op link f)).filter (fun g => takes || passR g) := by
  rw [hits_filter E hS, hits_filter E hS', h.rows]

lemma padded_filter {pass : Frame V → Bool} {blank : Frame V} {rows rows' : List (Frame V)}
    (hsieve : IsSieve pass blank) (h : rows.filter pass = rows'.filter pass) :
    (padded blank rows).filter pass = (padded blank rows').filter pass := by
  obtain hall | hblank := hsieve
  · rw [List.filter_eq_self.mpr fun f _ => hall f, List.filter_eq_self.mpr fun f _ => hall f] at h
    rw [h]
  · have hpad : ∀ fs : List (Frame V), (padded blank fs).filter pass = fs.filter pass := by
      intro fs
      cases fs with
      | nil =>
        rw [padded, List.isEmpty_nil, if_pos rfl, List.filter_cons, hblank]
        rfl
      | cons f fs => rfl
    rw [hpad, hpad, h]

def HitsPass (E : Engine V) (env : Env V) (op : JoinOp) (link : Link V) (takes : Bool)
    (passR : Frame V → Bool) (first : Source V) (second : Frame V → Source V) : Prop :=
  takes = true → ∀ f ∈ first.rows, ∀ g ∈ (second f).rows, E.links env op link f g = true →
    passR g = true

variable (hpass : ∀ f g, pass (.join op link.merged f g) = (passL f && (takes || passR g)))
  (hfirst : Alike passL first first') (hsecond : ∀ f, Alike passR (second f) (second' f))

include hpass hfirst

lemma Alike.filter_pairs {kept kept' : Frame V → List (Frame V)}
    (hkept : ∀ f ∈ first.rows, f ∈ first'.rows →
      (kept f).filter (fun g => takes || passR g) = (kept' f).filter (fun g => takes || passR g)) :
    (pairs op link first kept).filter pass = (pairs op link first' kept').filter pass := by
  rw [Meaning.filter_pairs hpass, Meaning.filter_pairs hpass, hfirst.rows]
  refine List.flatMap_congr fun f hf => ?_
  have hf' := hf
  rw [← hfirst.rows] at hf'
  rw [hkept f (List.mem_filter.mp hf').1 (List.mem_filter.mp hf).1]

include hsecond

lemma Alike.filter_lone (env : Env V) (hL : IsSieve passL first.blank)
    (hguard : takes = true → (∀ g, passR g = true) ∨ passL first.blank = false) :
    (E.lone env op link first second).filter pass =
      (E.lone env op link first' second').filter pass := by
  have hpair : pass ∘ Frame.join op link.merged first.blank =
      fun g => passL first.blank && (takes || passR g) := funext (hpass first.blank)
  unfold Engine.lone
  rw [← hfirst.blank, List.filter_map, List.filter_map, hpair]
  congr 1
  obtain hall | hblank := hL
  · -- The left tables show the same rows, so that the same rows match nothing.
    have hhit : E.isHit env op link first = E.isHit env op link first' := by
      funext g
      rw [Engine.isHit, Engine.isHit, hfirst.rows_eq hall]
    rw [hall, hhit]
    simp only [Bool.true_and]
    cases takes with
    | false =>
      simp only [Bool.false_or]
      rw [List.filter_comm, (hsecond first.blank).rows, List.filter_comm]
    | true =>
      obtain hall' | hblank := hguard rfl
      · rw [(hsecond first.blank).rows_eq hall']
      · rw [hall] at hblank
        exact absurd hblank.symm Bool.false_ne_true
  · rw [hblank]
    simp only [Bool.false_and, List.filter_false]

lemma Alike.joined (hop : isStandardJoin op = true) (hL : IsSieve passL first.blank)
    (hR : ∀ f, IsSieve passR (second f).blank)
    (hhits : HitsPass E env op link takes passR first second)
    (hhits' : HitsPass E env op link takes passR first' second')
    (hguard : keepsRight op = true → takes = true →
      (∀ g, passR g = true) ∨ passL first.blank = false) (matching : Option (Term V)) :
    Alike pass (E.joined env op link first second matching)
      (E.joined env op link first' second' matching) := by
  have hblank : Frame.join op link.merged first.blank (second first.blank).blank =
      .join op link.merged first'.blank (second' first'.blank).blank := by
    rw [← hfirst.blank, (hsecond first.blank).blank]
  have hkept : ∀ f ∈ first.rows, f ∈ first'.rows →
      (E.hits env op link second f).filter (fun g => takes || passR g) =
        (E.hits env op link second' f).filter (fun g => takes || passR g) := by
    intro f hf hf'
    exact (hsecond f).hits E (fun ht => hhits ht f hf) (fun ht => hhits' ht f hf')
  have hinner := hfirst.filter_pairs hpass hkept
  have houter : (pairs op link first fun f =>
      padded (second f).blank (E.hits env op link second f)).filter pass =
      (pairs op link first' fun f =>
        padded (second' f).blank (E.hits env op link second' f)).filter pass := by
    refine hfirst.filter_pairs hpass fun f hf hf' => ?_
    rw [← (hsecond f).blank]
    refine padded_filter ?_ (hkept f hf hf')
    cases takes with
    | true => exact .inl fun _ => rfl
    | false => exact hR f
  cases op with
  | inner => exact ⟨hblank, hinner⟩
  | cross => exact ⟨hblank, hinner⟩
  | left => exact ⟨hblank, houter⟩
  | right =>
    refine ⟨hblank, ?_⟩
    have hlone := hfirst.filter_lone E hpass hsecond env hL (hguard rfl)
    exact (List.filter_append _ _).trans (hinner ▸ hlone ▸ (List.filter_append _ _).symm)
  | full =>
    refine ⟨hblank, ?_⟩
    have hlone := hfirst.filter_lone E hpass hsecond env hL (hguard rfl)
    exact (List.filter_append _ _).trans (houter ▸ hlone ▸ (List.filter_append _ _).symm)
  | _ => exact absurd hop Bool.false_ne_true

end Joins

section Blanks

variable (E : Engine V) {v : View} {placement : Placement}

lemma passes_of_pending {L : Layout} (h : L.pending v placement = []) (f : Frame V) :
    E.passes v placement L f = true := by
  induction L generalizing f with
  | unit => exact E.passes_unit v placement f
  | base place bare =>
    cases he : v.exempts place.name with
    | true => cases f <;> simp only [Engine.passes, he, Bool.true_or]
    | false =>
      rw [Layout.pending, he] at h
      exact absurd h (List.cons_ne_nil place [])
  | derived alias? => exact E.passes_derived v placement alias? f
  | nested inner alias? ih =>
    rw [E.passes_nested]
    exact ih h f
  | join op hasOn l r ihl ihr =>
    rw [Layout.pending, List.append_eq_nil_iff] at h
    cases f with
    | empty => simp only [Engine.passes]
    | item b => simp only [Engine.passes]
    | join op' merge f g =>
      rw [E.passes_join, ihl h.1, Bool.true_and]
      cases ht : takesTests placement hasOn r.isBase with
      | true => rfl
      | false =>
        rw [ht, if_neg Bool.false_ne_true] at h
        rw [ihr h.2]
        rfl

lemma cell_null (null : V) (columns : List String) (name : String) :
    cell null columns (columns.map fun _ => null) name = null := by
  unfold cell
  split
  · rename_i x hx
    have hmem := List.mem_of_find?_eq_some hx
    obtain ⟨hl, hr⟩ := List.of_mem_zip hmem
    exact (List.mem_map.mp hr).elim fun _ h => h.2.symm
  · rfl

lemma owns_null (p : Policy) (t : TenantId) (columns : List String) :
    E.owns p t columns (columns.map fun _ => E.null) = false := by
  rw [Engine.owns, cell_null, Engine.isTrue, beq_eq_false_iff_ne]
  exact E.truth_null _

variable {D : Store V} {c : Common V} {env : Env V}

lemma blank_joined {op : JoinOp} (hop : isStandardJoin op = true) (link : Link V) (first : Source V)
    (second : Frame V → Source V) (matching : Option (Term V)) :
    (E.joined env op link first second matching).blank =
      .join op link.merged first.blank (second first.blank).blank := by
  cases op with
  | inner | left | right | full | cross => rfl
  | _ => exact absurd hop Bool.false_ne_true

lemma passes_blank (pl : Plan V) (hp : pl.layout.isStandard = true)
    (h : pl.layout.pending v placement ≠ []) (left : Frame V) :
    E.passes v placement pl.layout (E.source D c env (E.tested v placement pl).1 left).blank =
      false := by
  induction pl generalizing left with
  | unit => exact absurd rfl h
  | base place access? =>
    rw [Plan.layout, Layout.pending] at h
    have he : v.exempts place.name = false := by
      refine Bool.eq_false_iff.mpr fun he => h ?_
      rw [he, if_pos rfl]
    rw [Engine.tested, Engine.source, Plan.layout]
    simp only [Engine.placed, Engine.passes, he, owns_null, Bool.or_self]
  | derived lateral query alias? => exact absurd rfl h
  | nested inner alias? ih =>
    obtain ⟨rfl, hinner⟩ := isStandard_nested hp
    rw [Plan.layout, Engine.tested, Engine.source, E.passes_nested]
    exact ih hinner h left
  | join op matching link l r ihl ihr =>
    obtain ⟨hop, hl, hr⟩ := isStandard_join hp
    rw [Plan.layout, Engine.tested, Engine.source, blank_joined E hop, E.passes_join]
    by_cases hpl : l.layout.pending v placement = []
    · rw [Plan.layout, Layout.pending, hpl, List.nil_append] at h
      cases ht : takesTests placement link.hasOn r.layout.isBase with
      | true =>
        rw [ht, if_pos rfl] at h
        exact absurd rfl h
      | false =>
        rw [ht, if_neg Bool.false_ne_true] at h
        rw [Bool.false_or, ihr hr h, Bool.and_false]
    · rw [ihl hl hpl, Bool.false_and]

lemma isSieve_source (pl : Plan V) (hp : pl.layout.isStandard = true) (left : Frame V) :
    IsSieve (E.passes v placement pl.layout)
      (E.source D c env (E.tested v placement pl).1 left).blank := by
  by_cases h : pl.layout.pending v placement = []
  · exact .inl (passes_of_pending E h)
  · exact .inr (passes_blank E pl hp h left)

end Blanks

section Agreement

variable (E : Engine V) {p : Policy} {t : TenantId} {D D' : Store V}

lemma hitsPass_source (v : View) (D : Store V) (c : Common V) (env : Env V) (op : JoinOp)
    (link : Link V) (l r : Plan V) (hl : l.layout.isStandard = true)
    (hr : r.layout.isStandard = true) (hd : isDistinct (l.layout.places ++ r.layout.places) = true)
    (left : Frame V) (lefts : Frame V → Frame V) :
    HitsPass E env op (E.divided .joinCondition link r.isBase (E.tested v .joinCondition r).2).1
      (takesTests .joinCondition link.hasOn r.layout.isBase)
      (E.passes v .joinCondition r.layout)
      (E.source D c env (E.tested v .joinCondition l).1 left)
      fun f => E.source D c env (E.tested v .joinCondition r).1 (lefts f) := by
  intro ht f hf g hg hlink
  have hfl := E.fits_tested v .joinCondition D c env l (isPaired_of_isStandard hl) left f hf
  have hfr := E.fits_tested v .joinCondition D c env r (isPaired_of_isStandard hr) (lefts f) g hg
  rw [E.links_divided op link r (isPaired_of_isStandard hr) hfl hfr hd, ← Plan.isBase_layout, ht,
    Bool.not_true, Bool.false_or, Bool.and_eq_true] at hlink
  exact hlink.2

lemma source_alike (h : Agree E p t D D') (c : Common V) (env : Env V) (pl : Plan V)
    (hp : pl.layout.isStandard = true) (hd : isDistinct pl.layout.places = true)
    (ht : pl.layout.isTight (viewOf p t c) = true) (left : Frame V) :
    Alike (E.passes (viewOf p t c) .joinCondition pl.layout)
      (E.source D c env (E.tested (viewOf p t c) .joinCondition pl).1 left)
      (E.source D' c env (E.tested (viewOf p t c) .joinCondition pl).1 left) := by
  induction pl generalizing left with
  | unit =>
    rw [Engine.tested, Engine.source, Engine.source]
    exact ⟨rfl, rfl⟩
  | base place access? =>
    obtain ⟨rfl, hplace⟩ := isStandard_base hp
    have hkeeps := source_base_view p t c E D hplace .joinCondition env left
    have hkeeps' := source_base_view p t c E D' hplace .joinCondition env left
    rw [← h.view] at hkeeps'
    rw [Engine.tested]
    exact hkeeps.alike hkeeps'
  | derived lateral query alias? =>
    rw [Engine.tested, Engine.source, Engine.source]
    exact ⟨rfl, rfl⟩
  | nested inner alias? ih =>
    obtain ⟨rfl, hinner⟩ := isStandard_nested hp
    rw [Plan.layout, Engine.tested, Engine.source, Engine.source, funext (E.passes_nested _ _ _ none)]
    exact ih hinner hd ht left
  | join op matching link l r ihl ihr =>
    obtain ⟨hop, hl, hr⟩ := isStandard_join hp
    rw [Plan.layout, Layout.places] at hd
    obtain ⟨hdl, hdr⟩ := isDistinct_append hd
    rw [Plan.layout, Layout.isTight, Bool.and_eq_true, Bool.and_eq_true] at ht
    obtain ⟨⟨htl, htr⟩, hguard⟩ := ht
    rw [Plan.layout, Engine.tested, Engine.source, Engine.source]
    refine (ihl hl hdl htl left).joined E (fun f g => E.passes_join _ _ op op link.hasOn _ _ _ f g)
      (fun f => ihr hr hdr htr _) hop (isSieve_source E l hl left)
      (fun f => isSieve_source E r hr _) (hitsPass_source E _ D c env op link l r hl hr hd left _)
      (hitsPass_source E _ D' c env op link l r hl hr hd left _) (fun hkeeps htakes => ?_) matching
    rw [hkeeps, htakes] at hguard
    simp only [Bool.and_self, Bool.not_true, Bool.false_or, Bool.or_eq_true, Bool.not_eq_true',
      List.isEmpty_iff, List.isEmpty_eq_false_iff] at hguard
    obtain hright | hleft := hguard
    · exact .inl (passes_of_pending E hright)
    · exact .inr (passes_blank E l hl hleft left)

/-- The rows that a database yields for FROM clauses with their tests. -/
def testedFetch (p : Policy) (t : TenantId) (D : Store V) : Fetch V := fun c env plan condition =>
  let tested := E.tested (viewOf p t c) .joinCondition plan
  E.fetch D c env tested.1 (E.extend condition tested.2)

lemma imitates_testedFetch (h : Agree E p t D D') :
    Imitates E (E.fetch D) (testedFetch E p t D') tightFit p t := by
  intro c env plan condition hfit
  rw [tightFit, Bool.and_eq_true, Bool.and_eq_true] at hfit
  obtain ⟨⟨hstandard, hd⟩, ht⟩ := hfit
  have halike := source_alike E h c env plan hstandard hd ht .empty
  have hpaired := isPaired_of_isStandard hstandard
  unfold testedFetch
  rw [E.fetch_tested D c env plan hpaired hd, E.fetch_tested D' c env plan hpaired hd, halike.rows,
    halike.blank]

end Agreement

/-- A scoped query gives the same rows on databases that agree on what the tenant may see. -/
def Isolates (p : Policy) (t : TenantId) (q : Query) : Prop :=
  ∀ (V : Type) (E : Engine V) (D D' : Store V), Agree E p t D D' →
    E.result D (scopeStatement ⟨p, t, []⟩ (.query q)).value =
      E.result D' (scopeStatement ⟨p, t, []⟩ (.query q)).value

lemma isolates_of_within (p : Policy) (t : TenantId) (q : Query)
    (hq : queryWithin tightFit ⟨p, t, []⟩ q = true) : Isolates p t q := by
  intro V E D D' h
  have hagree : Agree E p t D' D' := ⟨fun _ _ => rfl, fun _ => rfl, fun _ => rfl⟩
  have hleft := queryAnswer_scoped (imitates_testedFetch E h) [] q [] hq
  have hright := queryAnswer_scoped (imitates_testedFetch E hagree) [] q [] hq
  simp only [scopeStatement, Counted.value_bind, Counted.value_pure, Engine.result]
  exact congrArg (fun a : Answer V => some a.table) (hleft.trans hright.symm)

end RowFence.Meaning
