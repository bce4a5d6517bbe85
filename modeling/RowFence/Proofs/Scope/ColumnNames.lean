import Mathlib.Data.List.Infix
import RowFence.Proofs.Scope.Placement

/-! What the name of a column means. The tables of a FROM clause show under paths of names, and an alias
may rename their columns by position. A qualified column belongs to the one table that shows under the
qualifier, in the innermost query where there is one. -/

namespace RowFence.Scope

open Sql

/-- How a database reads names: which names of tables and which names of columns are the same, and which
columns the members of a FROM clause have before an alias renames them. -/
structure Reading where
  table : Ident → String
  column : Ident → String
  columns : TableFactor → List String

/-- What shows in a FROM clause. Its place, the way up to the whole clause, tells it from the others. -/
structure Range where
  place : List Bool
  path : List String
  columns : List String
  deriving DecidableEq, Repr

/-- A column of a range, in the query that is so many levels further out. -/
structure Column where
  outward : Nat
  place : List Bool
  index : Nat
  deriving DecidableEq, Repr

/-- The position of a name that occurs once. -/
def position? (name : String) : List String → Option Nat
  | [] => none
  | c :: cs =>
    if c = name then if name ∈ cs then none else some 0
    else (position? name cs).map (· + 1)

namespace Range

def answers (qualifier : List String) (r : Range) : Bool :=
  !qualifier.isEmpty && qualifier.isSuffixOf r.path

/-- No qualifier fits both ranges. -/
def Apart (a b : Range) : Prop :=
  a.path = [] ∨ b.path = [] ∨ ¬ (a.path <:+ b.path ∨ b.path <:+ a.path)

instance (a b : Range) : Decidable (a.Apart b) :=
  inferInstanceAs (Decidable (_ ∨ _ ∨ ¬ (_ ∨ _)))

end Range

def resolve? (qualifier : List String) (name : String) : List (List Range) → Option Column
  | [] => none
  | level :: levels =>
    match level.filter (Range.answers qualifier) with
    | [] => (resolve? qualifier name levels).map fun c => { c with outward := c.outward + 1 }
    | [r] => (position? name r.columns).map fun i => ⟨0, r.place, i⟩
    | _ => none

def factorAlias? : TableFactor → Option TableAlias
  | .base _ _ alias? _ => alias?
  | .derived _ _ alias? => alias?
  | .nested _ alias? => alias?
  | .other _ alias? _ => alias?

def factorName : TableFactor → Name
  | .base name .. => name
  | .derived .. => []
  | .nested .. => []
  | .other .. => []

namespace Reading

variable (R : Reading)

def renamed (alias? : Option TableAlias) (columns : List String) : List String :=
  match alias? with
  | some a => a.columns.map R.column ++ columns.drop a.columns.length
  | none => columns

def range (place : List Bool) (t : TableFactor) : Range where
  place := place
  path := (qualifier (factorName t) (factorAlias? t)).map R.table
  columns := R.renamed (factorAlias? t) (R.columns t)

def denotes? (levels : List (List Range)) (qualifier : Name) (column : Ident) : Option Column :=
  resolve? (qualifier.map R.table) (R.column column) levels

/-- An alias leaves the name of a column to the column at one position: it gives this name there, if its
list reaches so far, and nowhere else. -/
def Leaves (alias? : Option TableAlias) (column : Ident) (index : Nat) : Prop :=
  ∀ a ∈ alias?, ∀ (j : Nat) (c : Ident), a.columns[j]? = some c →
    (R.column c = R.column column ↔ j = index)

end Reading

section Positions

variable {name : String} {i : Nat}

lemma position?_eq_some_iff {columns : List String} :
    position? name columns = some i ↔ ∀ j, columns[j]? = some name ↔ j = i := by
  induction columns generalizing i with
  | nil =>
    refine iff_of_false nofun fun h => ?_
    exact absurd ((h i).mpr rfl) nofun
  | cons c cs ih =>
    rw [position?]
    split
    · rename_i hc
      split
      · rename_i hmem
        obtain ⟨k, hk⟩ := List.mem_iff_getElem?.mp hmem
        refine iff_of_false nofun fun h => ?_
        have hzero : 0 = i := (h 0).mp (congrArg some hc)
        have hnext : k + 1 = i := (h (k + 1)).mp hk
        omega
      · rename_i hmem
        constructor
        · rintro ⟨⟩ j
          cases j with
          | zero => exact iff_of_true (congrArg some hc) rfl
          | succ j => exact iff_of_false (fun hj => hmem (List.mem_iff_getElem?.mpr ⟨j, hj⟩)) nofun
        · exact fun h => congrArg some ((h 0).mp (congrArg some hc))
    · rename_i hc
      have hfirst : (c :: cs)[0]? ≠ some name := fun h => hc (Option.some.inj h)
      rw [Option.map_eq_some_iff]
      constructor
      · rintro ⟨k, hk, rfl⟩ j
        cases j with
        | zero => exact iff_of_false hfirst nofun
        | succ j => exact (ih.mp hk j).trans (Nat.succ_inj).symm
      · intro h
        cases i with
        | zero => exact absurd ((h 0).mpr rfl) hfirst
        | succ i => exact ⟨i, ih.mpr fun j => (h (j + 1)).trans Nat.succ_inj, rfl⟩

/-- After the renaming, a name is the name of the same column just in case the alias leaves it there. -/
lemma position?_renamed_iff (R : Reading) (alias? : Option TableAlias) {columns : List String}
    {column : Ident} (h : position? (R.column column) columns = some i) :
    position? (R.column column) (R.renamed alias? columns) = some i ↔ R.Leaves alias? column i := by
  cases alias? with
  | none => exact iff_of_true h nofun
  | some a =>
    rw [position?_eq_some_iff] at h
    have hwithin {j : Nat} {c : Ident} (hc : a.columns[j]? = some c) :
        (R.renamed (some a) columns)[j]? = some (R.column c) := by
      have hj : j < (a.columns.map R.column).length := by
        rw [List.length_map]
        exact (List.getElem?_eq_some_iff.mp hc).1
      rw [Reading.renamed, List.getElem?_append_left hj, List.getElem?_map, hc]
      rfl
    have hbeyond {j : Nat} (hc : a.columns[j]? = none) :
        (R.renamed (some a) columns)[j]? = columns[j]? := by
      have hj := List.getElem?_eq_none_iff.mp hc
      rw [Reading.renamed, List.getElem?_append_right (by rwa [List.length_map]),
        List.getElem?_drop, List.length_map, Nat.add_sub_cancel' hj]
    -- Up to the end of the list its names count, and behind it those of the columns themselves.
    rw [position?_eq_some_iff]
    constructor
    · rintro hrenamed _ ⟨⟩ j c hc
      rw [← hrenamed j, hwithin hc, Option.some_inj]
    · intro hleaves j
      cases hc : a.columns[j]? with
      | some c => rw [hwithin hc, Option.some_inj, hleaves a rfl j c hc]
      | none => rw [hbeyond hc, h j]

end Positions

section Answers

variable {level : List Range} {r : Range}

lemma answers_self (h : r.path ≠ []) : r.answers r.path = true := by
  rw [Range.answers, Bool.and_eq_true, List.isSuffixOf_iff_suffix]
  exact ⟨by simpa using h, List.suffix_rfl⟩

lemma answers_of_apart {a b : Range} (ha : a.path ≠ []) (h : a.Apart b ∨ b.Apart a) :
    b.answers a.path = false := by
  rw [Range.answers, Bool.and_eq_false_iff, Bool.eq_false_iff (b := List.isSuffixOf _ _)]
  refine .inr fun hsuffix => ?_
  have hs := List.isSuffixOf_iff_suffix.mp hsuffix
  have hb : b.path ≠ [] := fun hnil => ha (List.suffix_nil.mp (hnil ▸ hs))
  rcases h with (h | h | h) | (h | h | h)
  · exact ha h
  · exact hb h
  · exact h (.inl hs)
  · exact hb h
  · exact ha h
  · exact h (.inr hs)

/-- Only the range itself shows under its path. -/
lemma filter_answers_self (hlevel : level.Pairwise Range.Apart) (hr : r ∈ level) (hpath : r.path ≠ []) :
    level.filter (Range.answers r.path) = [r] := by
  induction level with
  | nil => cases hr
  | cons a rest ih =>
    obtain ⟨hapart, hrest⟩ := List.pairwise_cons.mp hlevel
    cases hr with
    | head =>
      have hnone : rest.filter (Range.answers r.path) = [] := by
        refine List.filter_eq_nil_iff.mpr fun b hb => ?_
        rw [answers_of_apart hpath (.inl (hapart b hb))]
        exact Bool.false_ne_true
      rw [List.filter_cons, if_pos (answers_self hpath), hnone]
    | tail _ hr =>
      rw [List.filter_cons, answers_of_apart hpath (.inr (hapart r hr)), ih hrest hr]
      rfl

lemma resolve?_self (hlevel : level.Pairwise Range.Apart) (hr : r ∈ level) (hpath : r.path ≠ [])
    (name : String) (levels : List (List Range)) :
    resolve? r.path name (level :: levels) =
      (position? name r.columns).map fun i => ⟨0, r.place, i⟩ := by
  rw [resolve?, filter_answers_self hlevel hr hpath]

lemma denotes?_range_iff (R : Reading) (hlevel : level.Pairwise Range.Apart) {place : List Bool}
    {t : TableFactor} (hr : R.range place t ∈ level)
    (hname : qualifier (factorName t) (factorAlias? t) ≠ []) {column : Ident} {i : Nat}
    (h : position? (R.column column) (R.columns t) = some i) (levels : List (List Range)) :
    R.denotes? (level :: levels) (qualifier (factorName t) (factorAlias? t)) column =
      some ⟨0, place, i⟩ ↔ R.Leaves (factorAlias? t) column i := by
  have hpath : (R.range place t).path ≠ [] := mt List.map_eq_nil_iff.mp hname
  have hresolved : R.denotes? (level :: levels) (qualifier (factorName t) (factorAlias? t)) column =
      (position? (R.column column) (R.renamed (factorAlias? t) (R.columns t))).map
        fun j => ⟨0, place, j⟩ := resolve?_self hlevel hr hpath (R.column column) levels
  rw [hresolved, ← position?_renamed_iff R _ h, Option.map_eq_some_iff]
  constructor
  · rintro ⟨j, hj, hcolumn⟩
    have hindex : j = i := congrArg Column.index hcolumn
    rw [hj, hindex]
  · exact fun hi => ⟨i, hi, rfl⟩

/-- A column of the innermost query belongs to a range that shows there. -/
lemma exists_range_of_resolve? {qualifier : List String} {name : String} {levels : List (List Range)}
    {place : List Bool} {i : Nat}
    (h : resolve? qualifier name (level :: levels) = some ⟨0, place, i⟩) :
    ∃ r ∈ level, r.place = place := by
  rw [resolve?] at h
  split at h
  · obtain ⟨c, -, hc⟩ := Option.map_eq_some_iff.mp h
    exact absurd (congrArg Column.outward hc) (Nat.succ_ne_zero _)
  · rename_i r hfilter
    obtain ⟨j, -, hj⟩ := Option.map_eq_some_iff.mp h
    refine ⟨r, (List.mem_filter.mp (hfilter ▸ List.mem_singleton_self r)).1, ?_⟩
    exact congrArg Column.place hj
  · cases h

end Answers

/-- A FROM clause, as joins put it together out of its members. -/
inductive Tree where
  | unit
  | leaf (t : TableFactor)
  | nested (t : TableFactor) (inner : Tree)
  | join (op : JoinOp) (on? : Option Expr) (left right : Tree)

mutual

def factorTree : TableFactor → Tree
  | .base name arguments alias? hints => .leaf (.base name arguments alias? hints)
  | .derived lateral q alias? => .leaf (.derived lateral q alias?)
  | .nested inner alias? => .nested (.nested inner alias?) (tableTree inner)
  | .other pieces alias? tail => .leaf (.other pieces alias? tail)

def joinsTree (first : Tree) : List Join → Tree
  | [] => first
  | { op, relation, constraint, .. } :: js =>
    joinsTree (.join op (JoinConstraint.on? constraint) first (factorTree relation)) js

def tableTree : TableWithJoins → Tree
  | { relation, joins } => joinsTree (factorTree relation) joins

end

def tablesTree : List TableWithJoins → Tree
  | [] => .unit
  | t :: ts => .join .cross none (tableTree t) (tablesTree ts)

/-- Whether the rows of a join have the columns of its left side. -/
def keepsLeft : JoinOp → Bool
  | .rightSemi | .rightAnti => false
  | _ => true

def keepsRight : JoinOp → Bool
  | .leftSemi | .leftAnti => false
  | _ => true

/-- A table at its place in a FROM clause, with the ON of the join that it is the right side of, and the
ranges that the ON sees. It may show in the clause as a whole. -/
structure Standing where
  factor : TableFactor
  place : List Bool
  on? : Option (List Range × Expr)
  shows : Bool

def Standing.item (x : Standing) : Item := ⟨x.factor, x.on?.map (·.2)⟩

def Standing.range (R : Reading) (x : Standing) : Range := R.range x.place x.factor

namespace Tree

variable (R : Reading)

/-- An alias of a join shows in place of all that is joined. -/
def ranges (place : List Bool) : Tree → List Range
  | unit => []
  | leaf t => [R.range place t]
  | nested t inner =>
    if (factorAlias? t).isSome then [R.range place t] else inner.ranges (true :: place)
  | join op _ l r =>
    (if keepsLeft op then l.ranges (false :: place) else []) ++
      if keepsRight op then r.ranges (true :: place) else []

def standings (place : List Bool) (on? : Option (List Range × Expr)) (shows : Bool) :
    Tree → List Standing
  | unit => []
  | leaf t => [⟨t, place, on?, shows⟩]
  | nested t inner => inner.standings (true :: place) none (shows && (factorAlias? t).isNone)
  | join op on? l r =>
    l.standings (false :: place) none (shows && keepsLeft op) ++
      r.standings (true :: place)
        (on?.map fun e => (l.ranges R (false :: place) ++ r.ranges R (true :: place), e))
        (shows && keepsRight op)

def items (on? : Option Expr) : Tree → List Item
  | unit => []
  | leaf t => [⟨t, on?⟩]
  | nested _ inner => inner.items none
  | join _ on? l r => l.items none ++ r.items on?

variable {R}

lemma map_item_standings (t : Tree) (place : List Bool) (on? : Option (List Range × Expr))
    (shows : Bool) : (t.standings R place on? shows).map Standing.item = t.items (on?.map (·.2)) := by
  induction t generalizing place on? shows with
  | unit => rfl
  | leaf t => rfl
  | nested t inner ih => exact ih _ none _
  | join op condition? l r ihl ihr =>
    rw [standings, List.map_append, ihl, ihr, items]
    cases condition? <;> rfl

lemma suffix_of_mem_ranges {t : Tree} {place : List Bool} {r : Range} (h : r ∈ t.ranges R place) :
    place <:+ r.place := by
  induction t generalizing place with
  | unit => cases h
  | leaf t => rw [List.mem_singleton.mp h]; exact List.suffix_rfl
  | nested t inner ih =>
    rw [ranges] at h
    split at h
    · rw [List.mem_singleton.mp h]; exact List.suffix_rfl
    · exact (List.suffix_cons true place).trans (ih h)
  | join op on? l r ihl ihr =>
    rw [ranges] at h
    rcases List.mem_append.mp h with h | h <;> split at h
    · exact (List.suffix_cons false place).trans (ihl h)
    · cases h
    · exact (List.suffix_cons true place).trans (ihr h)
    · cases h

lemma suffix_of_mem_standings {t : Tree} {place : List Bool} {on? : Option (List Range × Expr)}
    {shows : Bool} {x : Standing} (h : x ∈ t.standings R place on? shows) : place <:+ x.place := by
  induction t generalizing place on? shows with
  | unit => cases h
  | leaf t => rw [List.mem_singleton.mp h]
  | nested t inner ih => exact (List.suffix_cons true place).trans (ih h)
  | join op condition? l r ihl ihr =>
    rcases List.mem_append.mp h with h | h
    · exact (List.suffix_cons false place).trans (ihl h)
    · exact (List.suffix_cons true place).trans (ihr h)

lemma places_apart {b b' : Bool} {place whole : List Bool} (h : b :: place <:+ whole)
    (h' : b' :: place <:+ whole) : b = b' := by
  have heq : b :: place = b' :: place :=
    (List.suffix_of_suffix_length_le h h' le_rfl).eq_of_length rfl
  exact (List.cons.inj heq).1

/-- A table shows in a FROM clause just in case it is one of the ranges there. -/
lemma shows_iff {t : Tree} {place : List Bool} {on? : Option (List Range × Expr)} {shows : Bool}
    {x : Standing} (h : x ∈ t.standings R place on? shows) :
    (x.shows = true → shows = true ∧ x.range R ∈ t.ranges R place) ∧
      (shows = true → (∃ r ∈ t.ranges R place, r.place = x.place) → x.shows = true) := by
  induction t generalizing place on? shows with
  | unit => cases h
  | leaf t =>
    rw [List.mem_singleton.mp h]
    exact ⟨fun hshows => ⟨hshows, List.mem_singleton_self _⟩, fun hshows _ => hshows⟩
  | nested t inner ih =>
    obtain ⟨hmem, hshown⟩ := ih h
    rw [Bool.and_eq_true] at hmem hshown
    rw [ranges]
    cases halias : factorAlias? t with
    | none =>
      rw [halias] at hmem hshown
      exact ⟨fun hx => ⟨(hmem hx).1.1, (hmem hx).2⟩, fun hshows => hshown ⟨hshows, rfl⟩⟩
    | some a =>
      rw [halias] at hmem
      -- The alias is the only range, and its place is above that of every table inside.
      refine ⟨fun hx => absurd (hmem hx).1.2 Bool.false_ne_true, fun _ hr => ?_⟩
      obtain ⟨r, hr, hplace⟩ := hr
      rw [List.mem_singleton.mp hr] at hplace
      have hinner : true :: place <:+ x.place := suffix_of_mem_standings (t := inner) h
      have hlength := hinner.length_le
      rw [← hplace] at hlength
      exact absurd hlength (Nat.not_succ_le_self place.length)
  | join op condition? l r ihl ihr =>
    rw [ranges]
    rcases List.mem_append.mp h with h | h
    -- A range with the place of the table comes from the side of the table.
    · obtain ⟨hmem, hshown⟩ := ihl h
      rw [Bool.and_eq_true] at hmem hshown
      constructor
      · intro hx
        obtain ⟨⟨hshows, hkeeps⟩, hrange⟩ := hmem hx
        rw [if_pos hkeeps]
        exact ⟨hshows, List.mem_append_left _ hrange⟩
      · rintro hshows ⟨s, hs, hplace⟩
        rcases List.mem_append.mp hs with hs | hs <;> split at hs
        · rename_i hkeeps
          exact hshown ⟨hshows, hkeeps⟩ ⟨s, hs, hplace⟩
        · cases hs
        · have hplaces := places_apart (suffix_of_mem_standings h) (hplace ▸ suffix_of_mem_ranges hs)
          exact absurd hplaces Bool.false_ne_true
        · cases hs
    · obtain ⟨hmem, hshown⟩ := ihr h
      rw [Bool.and_eq_true] at hmem hshown
      constructor
      · intro hx
        obtain ⟨⟨hshows, hkeeps⟩, hrange⟩ := hmem hx
        rw [if_pos hkeeps]
        exact ⟨hshows, List.mem_append_right _ hrange⟩
      · rintro hshows ⟨s, hs, hplace⟩
        rcases List.mem_append.mp hs with hs | hs <;> split at hs
        · have hplaces := places_apart (hplace ▸ suffix_of_mem_ranges hs) (suffix_of_mem_standings h)
          exact absurd hplaces Bool.false_ne_true
        · cases hs
        · rename_i hkeeps
          exact hshown ⟨hshows, hkeeps⟩ ⟨s, hs, hplace⟩
        · cases hs

/-- The ON of a join sees the table that is joined. -/
lemma range_mem_of_on? {t : Tree} {place : List Bool} {on? : Option (List Range × Expr)} {shows : Bool}
    (hon : ∀ s ∈ on?, t.ranges R place ⊆ s.1) {x : Standing} (h : x ∈ t.standings R place on? shows)
    {seen : List Range} {e : Expr} (hx : x.on? = some (seen, e)) : x.range R ∈ seen := by
  induction t generalizing place on? shows with
  | unit => cases h
  | leaf t =>
    rw [List.mem_singleton.mp h] at hx ⊢
    exact hon _ hx (List.mem_singleton_self _)
  | nested t inner ih => exact ih (fun s hs => absurd hs (Option.not_mem_none s)) h
  | join op condition? l r ihl ihr =>
    rcases List.mem_append.mp h with h | h
    · exact ihl (fun s hs => absurd hs (Option.not_mem_none s)) h
    · refine ihr (fun s hs => ?_) h
      obtain ⟨condition, -, rfl⟩ := Option.map_eq_some_iff.mp hs
      exact List.subset_append_right _ _

end Tree

/-- The named tables among the members of a FROM clause. -/
def bases (items : List Item) : List Item := items.filter fun i => isBase i.factor

section Bases

lemma bases_append (is is' : List Item) : bases (is ++ is') = bases is ++ bases is' :=
  List.filter_append ..

mutual

lemma bases_factorTree (on? : Option Expr) :
    (t : TableFactor) → bases ((factorTree t).items on?) = bases (⟨t, on?⟩ :: innerItems t)
  | .base .. => rfl
  | .derived .. => rfl
  | .nested inner _ => bases_tableTree inner
  | .other .. => rfl

lemma bases_joinsTree (first : Tree) :
    (js : List Join) →
      bases ((joinsTree first js).items none) = bases (first.items none) ++ bases (joinItems js)
  | [] => (List.append_nil _).symm
  | { op, relation, constraint, .. } :: js => by
    rw [joinsTree, bases_joinsTree _ js, Tree.items, bases_append, bases_factorTree _ relation,
      joinItems, List.append_assoc, ← bases_append, List.cons_append]

lemma bases_tableTree : (t : TableWithJoins) → bases ((tableTree t).items none) = bases (tableItems t)
  | { relation, joins } => by
    rw [tableTree, bases_joinsTree _ joins, bases_factorTree none relation, tableItems, ← bases_append,
      List.cons_append]

end

lemma bases_tablesTree (ts : List TableWithJoins) :
    bases ((tablesTree ts).items none) = bases (ts.flatMap tableItems) := by
  induction ts with
  | nil => rfl
  | cons t ts ih =>
    rw [tablesTree, Tree.items, bases_append, bases_tableTree, ih, List.flatMap_cons, bases_append]

end Bases

end RowFence.Scope
