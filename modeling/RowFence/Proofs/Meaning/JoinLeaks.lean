import RowFence.Proofs.Meaning.JoinIsolation
import RowFence.Proofs.Meaning.Numbers

/-! What a FROM clause shows that is not tight: over conditions that hold for all rows, it shows a
row of another tenant. -/

namespace RowFence.Meaning

open Sql Scope Numbers

/-- Every literal is the number one here, so that it is true and the tenant. -/
def ones : Engine Datum := { engine with value := fun _ => some 1 }

def homeStore (p : Policy) : Store Datum := fun _ => ⟨[p.tenantColumn], [[some 1]]⟩

/-- A row of another tenant besides, in each table that is not excluded. -/
def mixedStore (p : Policy) : Store Datum := fun path =>
  if p.excludesTable (".".intercalate path) then ⟨[p.tenantColumn], [[some 1]]⟩
  else ⟨[p.tenantColumn], [[some 1], [some 0]]⟩

section Stores

variable (p : Policy) (t : TenantId)

lemma owns_one : ones.owns p t [p.tenantColumn] [some 1] = true := by
  simp [Engine.owns, Engine.isTrue, cell, ones, engine, binary, truth, ofTruth]

lemma owns_zero : ones.owns p t [p.tenantColumn] [some 0] = false := by
  simp [Engine.owns, Engine.isTrue, cell, ones, engine, binary, truth, ofTruth]

lemma columns_mixedStore (path : List String) : (mixedStore p path).columns = [p.tenantColumn] := by
  unfold mixedStore
  split <;> rfl

lemma mem_mixedStore (path : List String) : [some 1] ∈ (mixedStore p path).rows := by
  unfold mixedStore
  split <;> exact List.mem_cons_self

lemma zero_mem_mixedStore {path : List String}
    (h : p.excludesTable (".".intercalate path) = false) : [some 0] ∈ (mixedStore p path).rows := by
  rw [mixedStore, h, if_neg Bool.false_ne_true]
  exact List.mem_cons_of_mem _ List.mem_cons_self

lemma agree_stores : Agree ones p t (homeStore p) (mixedStore p) := by
  refine ⟨fun path he => ?_, fun path => (columns_mixedStore p path).symm, fun path => ?_⟩
  · rw [mixedStore, if_pos he, homeStore]
  · rw [columns_mixedStore, homeStore, mixedStore]
    split
    · rfl
    · simp only [List.filter_cons, owns_one, owns_zero, if_true, Bool.false_eq_true, if_false]

end Stores

def standardFit (_ : View) (L : Layout) : Bool := L.isStandard && isDistinct L.places

/-! Clauses of a given layout whose conditions always hold, and whose subqueries give one row. -/

def oneRow : Query := selectAll [] none

def trivialConstraint : JoinConstraint → JoinConstraint
  | .on _ => .on (.value "TRUE")
  | _ => .none

mutual

def trivialFactor : TableFactor → TableFactor
  | .base name arguments alias? hints => .base name arguments alias? hints
  | .derived lateral _ alias? => .derived lateral oneRow alias?
  | .nested inner alias? => .nested (trivialTable inner) alias?
  | .other _ alias? _ => .derived false oneRow alias?

def trivialJoins : List Join → List Join
  | [] => []
  | { isGlobal, op, relation, constraint, .. } :: js =>
    { isGlobal, op, relation := trivialFactor relation, matching := none,
      constraint := trivialConstraint constraint } :: trivialJoins js

def trivialTable : TableWithJoins → TableWithJoins
  | { relation, joins } => { relation := trivialFactor relation, joins := trivialJoins joins }

end

def Link.IsTrivial : Link Datum → Prop
  | .on s => ∀ env, ones.isTrue (s.value env) = true
  | .merge m => m = .nothing

def Plan.IsTrivial : Plan Datum → Prop
  | .derived _ query _ => ∀ env, query env = ⟨[], [[]]⟩
  | .nested inner _ => inner.IsTrivial
  | .join _ _ link l r => link.IsTrivial ∧ l.IsTrivial ∧ r.IsTrivial
  | _ => True

lemma links_of_isTrivial {link : Link Datum} (h : link.IsTrivial) (env : Env Datum) (op : JoinOp)
    (f g : Frame Datum) : ones.links env op link f g = true := by
  cases link with
  | on s => exact h _
  | merge m =>
    rw [Link.IsTrivial] at h
    rw [h]
    rfl

section Clauses

variable (D : Store Datum) (p : Policy) (t : TenantId) (c : Common Datum)

lemma table_oneRow (env : Env Datum) :
    (queryAnswer ones (testedFetch ones p t D) c oneRow env).table = ⟨[], [[]]⟩ := by
  simp only [oneRow, selectAll, queryAnswer, cteTables, bodyAnswer, selectAnswer, tablesPlan,
    testedFetch, Engine.tested, optionTerm, Engine.extend, Engine.fetch, Engine.source]
  rfl

lemma isTrivial_constraintLink (j : JoinConstraint) :
    (constraintLink ones (testedFetch ones p t D) c (trivialConstraint j)).IsTrivial := by
  cases j with
  | on e => exact fun _ => rfl
  | _ => rfl

mutual

lemma layout_trivialFactor : (x : TableFactor) → factorLayout (trivialFactor x) = factorLayout x
  | .base .. => rfl
  | .derived .. => rfl
  | .nested inner alias? => congrArg (Layout.nested · alias?) (layout_trivialTable inner)
  | .other .. => rfl

lemma layout_trivialJoins (first : Layout) :
    (js : List Join) → joinsLayout first (trivialJoins js) = joinsLayout first js
  | [] => rfl
  | { op, relation, constraint, .. } :: js => by
    have hon : JoinConstraint.hasOn (trivialConstraint constraint) =
        JoinConstraint.hasOn constraint := by
      cases constraint <;> rfl
    rw [trivialJoins, joinsLayout, joinsLayout, hon, layout_trivialFactor relation]
    exact layout_trivialJoins _ js

lemma layout_trivialTable :
    (x : TableWithJoins) → tableLayout (trivialTable x) = tableLayout x
  | { relation, joins } => by
    rw [trivialTable, tableLayout, tableLayout, layout_trivialFactor relation]
    exact layout_trivialJoins _ joins

end

lemma layout_trivialTables (xs : List TableWithJoins) :
    tablesLayout (xs.map trivialTable) = tablesLayout xs := by
  induction xs with
  | nil => rfl
  | cons x xs ih => rw [List.map_cons, tablesLayout, tablesLayout, ih, layout_trivialTable]

mutual

lemma isTrivial_factorPlan : (x : TableFactor) →
      (factorPlan ones (testedFetch ones p t D) c (trivialFactor x)).IsTrivial
  | .base .. => trivial
  | .derived .. => table_oneRow D p t c
  | .nested inner _ => isTrivial_tablePlan inner
  | .other .. => table_oneRow D p t c

lemma isTrivial_joinsPlan (first : Plan Datum) (hfirst : first.IsTrivial) : (js : List Join) →
      (joinsPlan ones (testedFetch ones p t D) c first (trivialJoins js)).IsTrivial
  | [] => hfirst
  | { relation, constraint, .. } :: js => by
    rw [trivialJoins, joinsPlan]
    refine isTrivial_joinsPlan _ ?_ js
    exact ⟨isTrivial_constraintLink D p t c constraint, hfirst, isTrivial_factorPlan relation⟩

lemma isTrivial_tablePlan : (x : TableWithJoins) →
      (tablePlan ones (testedFetch ones p t D) c (trivialTable x)).IsTrivial
  | { relation, joins } => by
    rw [trivialTable, tablePlan]
    exact isTrivial_joinsPlan _ (isTrivial_factorPlan relation) joins

end

lemma isTrivial_tablesPlan (xs : List TableWithJoins) :
    (tablesPlan ones (testedFetch ones p t D) c (xs.map trivialTable)).IsTrivial := by
  induction xs with
  | nil => trivial
  | cons x xs ih => exact ⟨rfl, isTrivial_tablePlan D p t c x, ih⟩

mutual

lemma within_trivialFactor (v : View) : (x : TableFactor) → (factorLayout x).isStandard = true →
      factorWithin standardFit v (trivialFactor x) = true
  | .base name arguments alias? hints, h => by
    rw [factorLayout, Layout.isStandard, Bool.and_eq_true] at h
    exact h.1
  | .derived .., _ => rfl
  | .nested inner alias?, h => by
    rw [factorLayout, Layout.isStandard, Bool.and_eq_true] at h
    exact within_trivialTable v inner h.2
  | .other .., _ => rfl

lemma within_trivialJoins (v : View) (first : Layout) :
    (js : List Join) → (joinsLayout first js).isStandard = true →
      first.isStandard = true ∧ joinsWithin standardFit v (trivialJoins js) = true
  | [], h => ⟨h, rfl⟩
  | { relation, constraint, .. } :: js, h => by
    obtain ⟨hfirst, hjs⟩ := within_trivialJoins v _ js h
    obtain ⟨-, hfirst, hrelation⟩ := isStandard_join hfirst
    have hconstraint : constraintWithin standardFit v (trivialConstraint constraint) = true := by
      cases constraint <;> rfl
    refine ⟨hfirst, ?_⟩
    rw [trivialJoins, joinsWithin, within_trivialFactor v relation hrelation, hconstraint, hjs]
    rfl

lemma within_trivialTable (v : View) : (x : TableWithJoins) → (tableLayout x).isStandard = true →
      tableWithin standardFit v (trivialTable x) = true
  | { relation, joins }, h => by
    obtain ⟨hrelation, hjoins⟩ := within_trivialJoins v _ joins h
    rw [trivialTable, tableWithin, within_trivialFactor v relation hrelation, hjoins]
    rfl

end

lemma within_trivialTables (v : View) (xs : List TableWithJoins)
    (h : (tablesLayout xs).isStandard = true) :
    tablesWithin standardFit v (xs.map trivialTable) = true := by
  induction xs with
  | nil => rfl
  | cons x xs ih =>
    obtain ⟨-, hx, hxs⟩ := isStandard_join h
    rw [List.map_cons, tablesWithin, within_trivialTable v x hx, ih hxs]
    rfl

end Clauses

section Rows

variable {E : Engine Datum} {env : Env Datum} {op : JoinOp} {link : Link Datum}
  {first : Source Datum} {second : Frame Datum → Source Datum} {f g : Frame Datum}

lemma mem_joined (hop : isStandardJoin op = true) (hf : f ∈ first.rows) (hg : g ∈ (second f).rows)
    (hlink : E.links env op link f g = true) (matching : Option (Term Datum)) :
    .join op link.merged f g ∈ (E.joined env op link first second matching).rows := by
  have hhit : g ∈ E.hits env op link second f := List.mem_filter.mpr ⟨hg, hlink⟩
  have hpadded : g ∈ padded (second f).blank (E.hits env op link second f) := by
    rw [padded, List.isEmpty_eq_false_iff.mpr (List.ne_nil_of_mem hhit)]
    exact hhit
  have hinner : .join op link.merged f g ∈ pairs op link first (E.hits env op link second) :=
    List.mem_flatMap.mpr ⟨f, hf, List.mem_map_of_mem hhit⟩
  have houter : .join op link.merged f g ∈ pairs op link first fun f =>
      padded (second f).blank (E.hits env op link second f) :=
    List.mem_flatMap.mpr ⟨f, hf, List.mem_map_of_mem hpadded⟩
  cases op with
  | inner | cross => exact hinner
  | left => exact houter
  | right => exact List.mem_append_left _ hinner
  | full => exact List.mem_append_left _ houter
  | _ => exact absurd hop Bool.false_ne_true

lemma lone_mem_joined (hop : keepsRight op = true) (hg : g ∈ (second first.blank).rows)
    (hmiss : ∀ f ∈ first.rows, E.links env op link f g = false)
    (matching : Option (Term Datum)) :
    .join op link.merged first.blank g ∈ (E.joined env op link first second matching).rows := by
  have hlone : .join op link.merged first.blank g ∈ E.lone env op link first second := by
    refine List.mem_map_of_mem (List.mem_filter.mpr ⟨hg, ?_⟩)
    rw [Bool.not_eq_true', Engine.isHit, List.any_eq_false]
    exact fun f hf => Bool.eq_false_iff.mp (hmiss f hf)
  cases op with
  | right | full => exact List.mem_append_right _ hlone
  | _ => exact absurd hop Bool.false_ne_true

end Rows

def hasZero (f : Frame Datum) : Bool := f.items.any (·.values.contains (some 0))

lemma hasZero_of_items {f g h : Frame Datum} (hitems : h.items = f.items ++ g.items) :
    hasZero h = (hasZero f || hasZero g) := by
  rw [hasZero, hitems, List.any_append]
  rfl

section Leaks

variable (v : View) {env : Env Datum}

/-- A plan with its tests, over a row of another tenant in each table that is not excluded. -/
def mixedSource (env : Env Datum) (pl : Plan Datum) (left : Frame Datum) : Source Datum :=
  ones.source (mixedStore v.policy) [] env (ones.tested v .joinCondition pl).1 left

def besides (op : JoinOp) (left f : Frame Datum) : Frame Datum :=
  if readsLeft op then left.beside f else left

lemma mem_mixedSource_base {place : Occurrence} (h : place.isPlain = true) {values : List Datum}
    (hv : values ∈ (mixedStore v.policy (Name.folded place.name)).rows) (left : Frame Datum) :
    .item ⟨place, true, [v.policy.tenantColumn], values⟩ ∈
      (mixedSource v env (.base place none) left).rows := by
  rw [Occurrence.isPlain, Bool.and_eq_true] at h
  simp only [mixedSource, Engine.tested, Engine.source, lookup_nil, renamedColumns_eq h.2,
    columns_mixedStore, Engine.placed]
  exact List.mem_map_of_mem hv

section Join

variable {op : JoinOp} {link : Link Datum} {l r : Plan Datum} {f g : Frame Datum}
  (hl : l.layout.isStandard = true) (hr : r.layout.isStandard = true)
  (hd : isDistinct (l.layout.places ++ r.layout.places) = true) (hlink : link.IsTrivial)
  (left : Frame Datum) (matching : Option (Term Datum))

include hl hr hd hlink

lemma links_mixedSource (hf : f ∈ (mixedSource v env l left).rows)
    (hg : g ∈ (mixedSource v env r (besides op left f)).rows) :
    ones.links env op (ones.divided .joinCondition link r.isBase
        (ones.tested v .joinCondition r).2).1 f g =
      (!takesTests .joinCondition link.hasOn r.isBase || ones.passes v .joinCondition r.layout g) := by
  have hfl := ones.fits_tested v .joinCondition (mixedStore v.policy) [] env l
    (isPaired_of_isStandard hl) left f hf
  have hfr := ones.fits_tested v .joinCondition (mixedStore v.policy) [] env r
    (isPaired_of_isStandard hr) _ g hg
  rw [ones.links_divided op link r (isPaired_of_isStandard hr) hfl hfr hd,
    links_of_isTrivial hlink, Bool.true_and]

lemma exists_pair (hop : isStandardJoin op = true) (hf : f ∈ (mixedSource v env l left).rows)
    (hg : g ∈ (mixedSource v env r (besides op left f)).rows)
    (hpf : ones.passes v .joinCondition l.layout f = true)
    (hpg : ones.passes v .joinCondition r.layout g = true) :
    ∃ h ∈ (mixedSource v env (.join op matching link l r) left).rows,
      ones.passes v .joinCondition (.join op link.hasOn l.layout r.layout) h = true ∧
        h.items = f.items ++ g.items := by
  have hlinks := links_mixedSource v hl hr hd hlink left hf hg
  rw [hpg, Bool.or_true] at hlinks
  refine ⟨_, mem_joined hop hf hg hlinks matching, ?_, rfl⟩
  rw [ones.passes_join, hpf, hpg, Bool.or_true, Bool.and_true]

lemma exists_lone (hop : keepsRight op = true)
    (htakes : takesTests .joinCondition link.hasOn r.layout.isBase = true)
    (hpending : l.layout.pending v .joinCondition = [])
    (hg : ∀ f, g ∈ (mixedSource v env r (besides op left f)).rows)
    (hpg : ones.passes v .joinCondition r.layout g = false) :
    ∃ h ∈ (mixedSource v env (.join op matching link l r) left).rows,
      ones.passes v .joinCondition (.join op link.hasOn l.layout r.layout) h = true ∧
        h.items = (mixedSource v env l left).blank.items ++ g.items := by
  refine ⟨_, lone_mem_joined hop (hg _) (fun f hf => ?_) matching, ?_, rfl⟩
  · have hmiss := links_mixedSource v hl hr hd hlink left hf (hg f)
    rw [Plan.isBase_layout] at htakes
    rw [hpg, htakes] at hmiss
    exact hmiss
  · rw [ones.passes_join, passes_of_pending ones hpending, htakes]
    rfl

end Join

lemma exists_passes (pl : Plan Datum) (hp : pl.layout.isStandard = true)
    (hd : isDistinct pl.layout.places = true) (ht : pl.IsTrivial) (left : Frame Datum) :
    ∃ f ∈ (mixedSource v env pl left).rows, ones.passes v .joinCondition pl.layout f = true := by
  induction pl generalizing left with
  | unit => exact ⟨.empty, List.mem_singleton_self _, ones.passes_unit v _ _⟩
  | base place access? =>
    obtain ⟨rfl, hplace⟩ := isStandard_base hp
    refine ⟨_, mem_mixedSource_base v hplace (mem_mixedStore v.policy _) left, ?_⟩
    simp only [Plan.layout, Engine.passes, owns_one, Bool.or_true]
  | derived lateral query alias? =>
    refine ⟨.item ⟨⟨[], alias?⟩, false, renamedColumns alias? [], []⟩, ?_, ones.passes_derived v _ _ _⟩
    simp only [mixedSource, Engine.tested, Engine.source, ht _, Engine.placed]
    exact List.mem_singleton_self _
  | nested inner alias? ih =>
    obtain ⟨rfl, hinner⟩ := isStandard_nested hp
    obtain ⟨f, hf, hpass⟩ := ih hinner hd ht left
    exact ⟨f, hf, hpass⟩
  | join op matching link l r ihl ihr =>
    obtain ⟨hop, hl, hr⟩ := isStandard_join hp
    obtain ⟨hlink, htl, htr⟩ := ht
    obtain ⟨hdl, hdr⟩ := isDistinct_append hd
    obtain ⟨f, hf, hpf⟩ := ihl hl hdl htl left
    obtain ⟨g, hg, hpg⟩ := ihr hr hdr htr (besides op left f)
    obtain ⟨h, hh, hph, -⟩ := exists_pair v hl hr hd hlink left matching hop hf hg hpf hpg
    exact ⟨h, hh, hph⟩

lemma isTight_join_eq_false {op : JoinOp} {hasOn : Bool} {L M : Layout}
    (h : (Layout.join op hasOn L M).isTight v = false) :
    L.isTight v = false ∨ M.isTight v = false ∨
      (keepsRight op = true ∧ takesTests .joinCondition hasOn M.isBase = true ∧
        M.pending v .joinCondition ≠ [] ∧ L.pending v .joinCondition = []) := by
  simp only [Layout.isTight, Bool.and_eq_false_iff, Bool.or_eq_false_iff, Bool.not_eq_false',
    Bool.and_eq_true, List.isEmpty_eq_false_iff, List.isEmpty_iff] at h
  obtain (h | h) | ⟨⟨⟨hop, htakes⟩, hM⟩, hL⟩ := h
  · exact .inl h
  · exact .inr (.inl h)
  · exact .inr (.inr ⟨hop, htakes, hM, hL⟩)

lemma exists_zero_base (env : Env Datum) {r : Plan Datum} (hr : r.layout.isStandard = true)
    (hbase : r.layout.isBase = true) (hpending : r.layout.pending v .joinCondition ≠ []) :
    ∃ g, (∀ left, g ∈ (mixedSource v env r left).rows) ∧
      ones.passes v .joinCondition r.layout g = false ∧ hasZero g = true := by
  cases r with
  | base place access? =>
    obtain ⟨rfl, hplace⟩ := isStandard_base hr
    have hexempt : v.exempts place.name = false := by
      refine Bool.eq_false_iff.mpr fun he => hpending ?_
      rw [Plan.layout, Layout.pending, he, if_pos rfl]
    have hplain : place.name.isPlain = true := by
      rw [Occurrence.isPlain, Bool.and_eq_true] at hplace
      exact hplace.1
    have hexcluded : v.policy.excludesTable (".".intercalate (Name.folded place.name)) = false := by
      rw [View.exempts, Bool.or_eq_false_iff] at hexempt
      rw [v.policy.excludesTable_folded hplain]
      exact hexempt.1
    refine ⟨_, mem_mixedSource_base v hplace (zero_mem_mixedStore v.policy hexcluded), ?_, rfl⟩
    simp only [Plan.layout, Engine.passes, hexempt, owns_zero, Bool.or_self]
  | _ => exact absurd hbase Bool.false_ne_true

/-- A plan that is not tight lets a row of another tenant pass. -/
lemma exists_passes_zero (pl : Plan Datum) (hp : pl.layout.isStandard = true)
    (hd : isDistinct pl.layout.places = true) (ht : pl.IsTrivial)
    (hloose : pl.layout.isTight v = false) (left : Frame Datum) :
    ∃ f ∈ (mixedSource v env pl left).rows, ones.passes v .joinCondition pl.layout f = true ∧
      hasZero f = true := by
  induction pl generalizing left with
  | unit => exact absurd hloose.symm Bool.false_ne_true
  | base place access? => exact absurd hloose.symm Bool.false_ne_true
  | derived lateral query alias? => exact absurd hloose.symm Bool.false_ne_true
  | nested inner alias? ih =>
    obtain ⟨rfl, hinner⟩ := isStandard_nested hp
    obtain ⟨f, hf, hpass⟩ := ih hinner hd ht hloose left
    exact ⟨f, hf, hpass⟩
  | join op matching link l r ihl ihr =>
    obtain ⟨hop, hl, hr⟩ := isStandard_join hp
    obtain ⟨hlink, htl, htr⟩ := ht
    obtain ⟨hdl, hdr⟩ := isDistinct_append hd
    obtain hlt | hrt | ⟨hkeeps, htakes, hright, hleft⟩ := isTight_join_eq_false v hloose
    · obtain ⟨f, hf, hpf, hzero⟩ := ihl hl hdl htl hlt left
      obtain ⟨g, hg, hpg⟩ := exists_passes v r hr hdr htr (besides op left f)
      obtain ⟨h, hh, hph, hitems⟩ := exists_pair v hl hr hd hlink left matching hop hf hg hpf hpg
      exact ⟨h, hh, hph, by rw [hasZero_of_items hitems, hzero, Bool.true_or]⟩
    · obtain ⟨f, hf, hpf⟩ := exists_passes v l hl hdl htl left
      obtain ⟨g, hg, hpg, hzero⟩ := ihr hr hdr htr hrt (besides op left f)
      obtain ⟨h, hh, hph, hitems⟩ := exists_pair v hl hr hd hlink left matching hop hf hg hpf hpg
      exact ⟨h, hh, hph, by rw [hasZero_of_items hitems, hzero, Bool.or_true]⟩
    · have hbase : r.layout.isBase = true := by
        rw [takesTests, Bool.and_eq_true, Bool.and_eq_true] at htakes
        exact htakes.1.1
      obtain ⟨g, hg, hpg, hzero⟩ := exists_zero_base v env hr hbase hright
      obtain ⟨h, hh, hph, hitems⟩ :=
        exists_lone v hl hr hd hlink left matching hkeeps htakes hleft (fun f => hg _) hpg
      exact ⟨h, hh, hph, by rw [hasZero_of_items hitems, hzero, Bool.or_true]⟩

lemma hasZero_placed (place : Occurrence) (stored : Bool) (columns : List String)
    {rows : List (List Datum)} (h : ∀ values ∈ rows, some 0 ∉ values) :
    hasZero (ones.placed place stored columns rows).blank = false ∧
      ∀ f ∈ (ones.placed place stored columns rows).rows, hasZero f = false := by
  have hitem : ∀ values : List Datum, some 0 ∉ values →
      hasZero (.item ⟨place, stored, columns, values⟩) = false := by
    intro values hvalues
    rw [hasZero, Frame.items, List.any_cons, List.any_nil, Bool.or_false]
    exact Bool.eq_false_iff.mpr (mt List.contains_iff_mem.mp hvalues)
  refine ⟨hitem _ fun hzero => ?_, fun f hf => ?_⟩
  · obtain ⟨_, -, hnull⟩ := List.mem_map.mp hzero
    exact absurd hnull.symm (Option.some_ne_none 0)
  · obtain ⟨values, hvalues, rfl⟩ := List.mem_map.mp hf
    exact hitem values (h values hvalues)

lemma hasZero_homeStore (p : Policy) (pl : Plan Datum) (hp : pl.layout.isStandard = true)
    (ht : pl.IsTrivial) (left : Frame Datum) :
    hasZero (ones.source (homeStore p) [] env (ones.tested v .joinCondition pl).1 left).blank =
        false ∧
      ∀ f ∈ (ones.source (homeStore p) [] env (ones.tested v .joinCondition pl).1 left).rows,
        hasZero f = false := by
  induction pl generalizing left with
  | unit =>
    refine ⟨rfl, fun f hf => ?_⟩
    rw [List.mem_singleton.mp hf]
    rfl
  | base place access? =>
    obtain ⟨rfl, hplace⟩ := isStandard_base hp
    simp only [Engine.tested, Engine.source, lookup_nil, homeStore]
    refine hasZero_placed place true _ fun values hvalues => ?_
    rw [List.mem_singleton.mp hvalues]
    decide
  | derived lateral query alias? =>
    simp only [Engine.tested, Engine.source, ht _]
    refine hasZero_placed _ false _ fun values hvalues => ?_
    rw [List.mem_singleton.mp hvalues]
    exact List.not_mem_nil
  | nested inner alias? ih =>
    obtain ⟨rfl, hinner⟩ := isStandard_nested hp
    exact ih hinner ht left
  | join op matching link l r ihl ihr =>
    obtain ⟨hop, hl, hr⟩ := isStandard_join hp
    obtain ⟨-, htl, htr⟩ := ht
    rw [Engine.tested, Engine.source]
    refine ones.joined_forall (P := (hasZero · = false)) (Q := (hasZero · = false))
      (R := (hasZero · = false)) _ (ihl hl htl left) (fun f => ihr hr htr _) (fun f g hf hg => ?_)
      (fun hone => ?_) matching
    · rw [hasZero_of_items rfl, hf, hg]
      rfl
    · cases op with
      | leftSemi | rightSemi | leftAnti | rightAnti => exact absurd hop Bool.false_ne_true
      | _ => exact absurd hone.symm Bool.false_ne_true

end Leaks

section Results

variable (p : Policy) (t : TenantId) (D : Store Datum) (xs : List TableWithJoins)

def trivialQuery : Query := selectAll (xs.map trivialTable) none

lemma within_trivialQuery (h : standardFit ⟨p, t, []⟩ (tablesLayout xs) = true) :
    queryWithin standardFit ⟨p, t, []⟩ (trivialQuery xs) = true := by
  have hstandard := h
  rw [standardFit, Bool.and_eq_true] at hstandard
  simp only [trivialQuery, selectAll, queryWithin, bodyWithin, selectWithin, ctesWithin, View.after,
    layout_trivialTables, within_trivialTables ⟨p, t, []⟩ xs hstandard.1, h]
  rfl

def trivialPlan : Plan Datum :=
  tablesPlan ones (testedFetch ones p t D) [] (xs.map trivialTable)

lemma layout_trivialPlan : (trivialPlan p t D xs).layout = tablesLayout xs :=
  (layout_tablesPlan ones (testedFetch ones p t D) [] _).trans (layout_trivialTables xs)

def trivialRows : List (Frame Datum) :=
  (testedFetch ones p t D [] [] (trivialPlan p t D xs) none).rows

lemma rows_trivialQuery (h : standardFit ⟨p, t, []⟩ (tablesLayout xs) = true) :
    (ones.result D (scopeStatement ⟨p, t, []⟩ (.query (trivialQuery xs))).value).map Table.rows =
      some ((trivialRows p t D xs).map fun f => f.items.flatMap (·.values)) := by
  have himitates : Imitates ones (ones.fetch D) (testedFetch ones p t D) standardFit p t :=
    fun _ _ _ _ _ => rfl
  have hanswer := queryAnswer_scoped himitates [] (trivialQuery xs) []
    (within_trivialQuery p t xs h)
  simp only [scopeStatement, Counted.value_bind, Counted.value_pure, Engine.result, Option.map_some]
  refine (congrArg (fun a : Answer Datum => some a.table.rows) hanswer).trans ?_
  simp only [trivialQuery, selectAll, queryAnswer, cteTables, bodyAnswer, selectAnswer, selectItems,
    optionTerm, ones, engine, Numbers.select, Answer.table, List.map_map, Function.comp_def,
    List.flatMap_cons, List.flatMap_nil, List.append_nil, itemValues, trivialRows, trivialPlan]

lemma contains_zero (f : Frame Datum) :
    (f.items.flatMap (·.values)).contains (some 0) = hasZero f := by
  rw [hasZero, Bool.eq_iff_iff, List.contains_iff_mem, List.mem_flatMap, List.any_eq_true]
  exact ⟨fun ⟨b, hb, hzero⟩ => ⟨b, hb, List.contains_iff_mem.mpr hzero⟩,
    fun ⟨b, hb, hzero⟩ => ⟨b, hb, List.contains_iff_mem.mp hzero⟩⟩

variable {xs} (h : standardFit ⟨p, t, []⟩ (tablesLayout xs) = true)
include h

lemma trivialRows_eq : trivialRows p t D xs =
    (ones.source D [] [] (ones.tested ⟨p, t, []⟩ .joinCondition (trivialPlan p t D xs)).1
      .empty).rows.filter (ones.passes ⟨p, t, []⟩ .joinCondition (trivialPlan p t D xs).layout) := by
  rw [standardFit, Bool.and_eq_true, ← layout_trivialPlan p t D] at h
  rw [trivialRows, testedFetch, viewOf, List.map_nil,
    ones.fetch_tested D [] [] _ (isPaired_of_isStandard h.1) h.2]
  exact List.filter_true _

lemma hasZero_home : ∀ row ∈ trivialRows p t (homeStore p) xs, hasZero row = false := by
  intro row hrow
  rw [trivialRows_eq p t _ h] at hrow
  rw [standardFit, Bool.and_eq_true, ← layout_trivialPlan p t (homeStore p)] at h
  exact (hasZero_homeStore _ p _ h.1 (isTrivial_tablesPlan _ p t [] xs) .empty).2 row
    (List.mem_filter.mp hrow).1

lemma hasZero_mixed (hloose : (tablesLayout xs).isTight ⟨p, t, []⟩ = false) :
    ∃ row ∈ trivialRows p t (mixedStore p) xs, hasZero row = true := by
  rw [trivialRows_eq p t _ h]
  rw [standardFit, Bool.and_eq_true, ← layout_trivialPlan p t (mixedStore p)] at h
  rw [← layout_trivialPlan p t (mixedStore p)] at hloose
  obtain ⟨f, hf, hpass, hzero⟩ := exists_passes_zero ⟨p, t, []⟩ _ h.1 h.2
    (isTrivial_tablesPlan _ p t [] xs) hloose .empty
  exact ⟨f, List.mem_filter.mpr ⟨hf, hpass⟩, hzero⟩

lemma not_isolates_trivialQuery (hloose : (tablesLayout xs).isTight ⟨p, t, []⟩ = false) :
    ¬ Isolates p t (trivialQuery xs) := by
  intro hisolates
  have heq := hisolates Datum ones (homeStore p) (mixedStore p) (agree_stores p t)
  have hrows := congrArg (Option.map Table.rows) heq
  rw [rows_trivialQuery p t _ xs h, rows_trivialQuery p t _ xs h] at hrows
  obtain ⟨f, hf, hzero⟩ := hasZero_mixed p t h hloose
  have hmem := List.mem_map_of_mem (f := fun f : Frame Datum => f.items.flatMap (·.values)) hf
  rw [← Option.some.inj hrows] at hmem
  obtain ⟨g, hg, hvalues⟩ := List.mem_map.mp hmem
  have hhome := hasZero_home p t h g hg
  rw [← contains_zero, hvalues, contains_zero, hzero] at hhome
  exact absurd hhome.symm Bool.false_ne_true

end Results

/-- Queries over tight layouts isolate the tenant. Over each other layout, some query does not. -/
theorem isolates_of_isTight (p : Policy) (t : TenantId) :
    (∀ q, queryWithin tightFit ⟨p, t, []⟩ q = true → Isolates p t q) ∧
      ∀ tables, standardFit ⟨p, t, []⟩ (tablesLayout tables) = true →
        (tablesLayout tables).isTight ⟨p, t, []⟩ = false →
          ∃ others, tablesLayout others = tablesLayout tables ∧
            queryWithin standardFit ⟨p, t, []⟩ (selectAll others none) = true ∧
              ¬ Isolates p t (selectAll others none) := by
  refine ⟨isolates_of_within p t, fun tables hfit hloose => ?_⟩
  refine ⟨tables.map trivialTable, layout_trivialTables tables, ?_, ?_⟩
  · exact within_trivialQuery p t tables hfit
  · exact not_isolates_trivialQuery p t hfit hloose

section Shop

def itemsOfOrders : Query :=
  selectAll [⟨table "orders", [join .right (table "items")
    (equal (columnOf "orders" "id") (columnOf "items" "order_id"))]⟩] none

def tenantsThenOrders : List TableWithJoins :=
  [⟨table "s2_tenant", [join .right (table "orders")
    (equal (columnOf "s2_tenant" "id") (columnOf "orders" "customer_id"))]⟩]

def tenantsOfOrders : Query := selectAll tenantsThenOrders none

theorem isolates_itemsOfOrders :
    queryWithin tightFit ⟨.usual, .one, []⟩ itemsOfOrders = true ∧
      Isolates .usual .one itemsOfOrders ∧
      standardFit ⟨.usual, .one, []⟩ (tablesLayout tenantsThenOrders) = true ∧
      (tablesLayout tenantsThenOrders).isTight ⟨.usual, .one, []⟩ = false ∧
      ∃ others, tablesLayout others = tablesLayout tenantsThenOrders ∧
        queryWithin standardFit ⟨.usual, .one, []⟩ (selectAll others none) = true ∧
          ¬ Isolates .usual .one (selectAll others none) :=
  have h : queryWithin tightFit ⟨.usual, .one, []⟩ itemsOfOrders = true := by decide
  have hfit : standardFit ⟨.usual, .one, []⟩ (tablesLayout tenantsThenOrders) = true := by decide
  have hloose : (tablesLayout tenantsThenOrders).isTight ⟨.usual, .one, []⟩ = false := by decide
  ⟨h, (isolates_of_isTight .usual .one).1 itemsOfOrders h, hfit, hloose,
    (isolates_of_isTight .usual .one).2 tenantsThenOrders hfit hloose⟩

lemma agree_shop {rows rows' itemRows : List (List Datum)}
    (h : rows.filter (engine.owns .usual .one (orders []).columns) =
      rows'.filter (engine.owns .usual .one (orders []).columns)) :
    Agree engine .usual .one (shop rows itemRows) (shop rows' itemRows) := by
  have hexcluded : Policy.usual.excludesTable (".".intercalate ["orders"]) = false := by decide
  refine ⟨fun path he => ?_, fun path => ?_, fun path => ?_⟩
  · refine shop_of_ne ?_ rows rows' itemRows
    rintro rfl
    rw [hexcluded] at he
    exact absurd he Bool.false_ne_true
  · by_cases hpath : path = ["orders"]
    · subst hpath
      rfl
    · rw [shop_of_ne hpath rows rows' itemRows]
  · by_cases hpath : path = ["orders"]
    · subst hpath
      exact h
    · rw [shop_of_ne hpath rows rows' itemRows]

theorem result_tenantsOfOrders :
    let D := shop [[some 1, some 1, some 1]] []
    let D' := shop [[some 1, some 1, some 1], [some 2, some 2, some 2]] []
    Agree engine .usual .one D D' ∧
      engine.result D (scopeStatement ⟨.usual, .one, []⟩ (.query tenantsOfOrders)).value ≠
        engine.result D' (scopeStatement ⟨.usual, .one, []⟩ (.query tenantsOfOrders)).value := by
  refine ⟨agree_shop (by decide), fun h => ?_⟩
  have hrows := congrArg (Option.map fun table => table.rows.length) h
  exact absurd hrows (by decide)

end Shop

end RowFence.Meaning
