import Mathlib.Tactic.Lemma
import RowFence.Sql.Collect

/-! The constructs that a construct has for parts, and the order in which `collect` passes them. -/

namespace RowFence.Sql

inductive Construct where
  | expr (e : Expr)
  | piece (p : Piece)
  | factor (t : TableFactor)
  | constraint (c : JoinConstraint)
  | join (j : Join)
  | table (t : TableWithJoins)
  | cte (c : Cte)
  | key (k : OrderKey)
  | query (q : Query)
  | body (b : Body)
  | item (i : SelectItem)
  | distinct (d : Distinct)
  | select (s : Select)
  | statement (s : Statement)
  | given (name : Ident)

namespace Construct

def ofAlias (alias? : Option TableAlias) : List Construct :=
  alias?.toList.map fun a => given a.name

def parts : Construct → List Construct
  | expr (.binary l _ r) => [expr l, expr r]
  | expr (.nested e) => [expr e]
  | expr (.call _ rest) => rest.map piece
  | expr (.form pieces) => pieces.map piece
  | expr (.name _) | expr (.value _) => []
  | piece (.expr e) => [expr e]
  | piece (.query q) => [query q]
  | piece (.table t) => [factor t]
  | piece (.text _) => []
  | factor (.base _ arguments _ hints) => arguments.map piece ++ hints.map piece
  | factor (.derived _ q alias?) => query q :: ofAlias alias?
  | factor (.nested inner alias?) => table inner :: ofAlias alias?
  | factor (.other pieces alias? tail) => pieces.map piece ++ ofAlias alias? ++ tail.map piece
  | constraint (.on e) => [expr e]
  | constraint (.shared _) | constraint .natural | constraint .none => []
  | join j => factor j.relation :: j.matching.toList.map expr ++ [constraint j.constraint]
  | table t => factor t.relation :: t.joins.map join
  | cte c => [given c.given.name, query c.query]
  | key k => expr k.key :: k.fill.map piece
  | query q =>
    q.ctes.map cte ++ body q.body :: q.orderBy.map key ++ q.interpolate.map piece
      ++ q.limit.toList.map expr ++ q.tail.map piece
  | body (.select s) => [select s]
  | body (.setOp l _ _ r) => [body l, body r]
  | body (.query q) => [query q]
  | body (.rows pieces) => pieces.map piece
  | body (.table _) => []
  | body (.change s) => [statement s]
  | item (.expr e alias?) => expr e :: alias?.toList.map given
  | item (.wildcard _ options) => options.map piece
  | distinct (.on keys) => keys.map expr
  | distinct .none | distinct .rows => []
  | select s =>
    s.top.map piece ++ distinct s.distinct :: s.items.map item ++ s.tables.map table
      ++ s.views.map piece ++ s.condition.toList.map expr ++ s.groupBy.map expr
      ++ s.sorting.map piece ++ s.having.toList.map expr ++ s.tail.map piece
  | statement (.query q) => [query q]
  | statement (.update u) =>
    table u.target :: u.assignments.map piece ++ u.source?.toList.map table
      ++ u.condition.toList.map expr ++ u.returning.map piece
  | statement (.delete d) =>
    d.targets.map table ++ d.sources.map table ++ d.condition.toList.map expr ++ d.tail.map piece
  | statement (.other pieces) => pieces.map piece
  | given _ => []

/-- What stands at a place: the number of a part, the number of a part of that, and so on. -/
def at? : (place : List Nat) → Construct → Option Construct
  | [], c => some c
  | n :: place, c => c.parts[n]?.bind (at? place)

variable {α : Type} (f : Node → List α)

/-- What is found at a construct itself. -/
def found : Construct → List α
  | expr e => f (.expr e)
  | factor (.base name _ alias? _) => f (.table name alias?)
  | given name => f (.given name)
  | _ => []

def collect : Construct → List α
  | expr e => e.collect f
  | piece p => p.collect f
  | factor t => t.collect f
  | constraint c => c.collect f
  | join j => j.collect f
  | table t => t.collect f
  | cte c => collectCtes f [c]
  | key k => collectKeys f [k]
  | query q => q.collect f
  | body b => b.collect f
  | item i => collectItems f [i]
  | distinct d => d.collect f
  | select s => s.collect f
  | statement s => s.collect f
  | given name => f (.given name)

section Lists

lemma collectExprs_eq (es : List Expr) :
    collectExprs f es = (es.map expr).flatMap (collect f) := by
  induction es with
  | nil => rfl
  | cons e es ih => rw [collectExprs, ih]; rfl

lemma collectOption_eq (e? : Option Expr) :
    collectOption f e? = (e?.toList.map expr).flatMap (collect f) := by
  cases e? with
  | none => rfl
  | some e => exact (List.append_nil _).symm

lemma collectPieces_eq (ps : List Piece) :
    collectPieces f ps = (ps.map piece).flatMap (collect f) := by
  induction ps with
  | nil => rfl
  | cons p ps ih => rw [collectPieces, ih]; rfl

lemma collectAlias_eq (alias? : Option TableAlias) :
    collectAlias f alias? = (ofAlias alias?).flatMap (collect f) := by
  cases alias? with
  | none => rfl
  | some a => exact (List.append_nil _).symm

lemma collectJoins_eq (js : List Join) :
    collectJoins f js = (js.map join).flatMap (collect f) := by
  induction js with
  | nil => rfl
  | cons j js ih => rw [collectJoins, ih]; rfl

lemma collectTables_eq (ts : List TableWithJoins) :
    collectTables f ts = (ts.map table).flatMap (collect f) := by
  induction ts with
  | nil => rfl
  | cons t ts ih => rw [collectTables, ih]; rfl

lemma collectTableOption_eq (t? : Option TableWithJoins) :
    collectTableOption f t? = (t?.toList.map table).flatMap (collect f) := by
  cases t? with
  | none => rfl
  | some t => exact (List.append_nil _).symm

lemma collectCtes_eq (cs : List Cte) :
    collectCtes f cs = (cs.map cte).flatMap (collect f) := by
  induction cs with
  | nil => rfl
  | cons c cs ih =>
    cases c
    simp only [collectCtes, ih, collect, List.map_cons, List.flatMap_cons, List.append_nil]

lemma collectKeys_eq (ks : List OrderKey) :
    collectKeys f ks = (ks.map key).flatMap (collect f) := by
  induction ks with
  | nil => rfl
  | cons k ks ih =>
    cases k
    simp only [collectKeys, ih, collect, List.map_cons, List.flatMap_cons, List.append_nil]

lemma collectItems_eq (is : List SelectItem) :
    collectItems f is = (is.map item).flatMap (collect f) := by
  induction is with
  | nil => rfl
  | cons i is ih =>
    cases i <;> simp only [collectItems, ih, collect, List.map_cons, List.flatMap_cons,
      List.append_nil]

end Lists

/-- A construct is passed before its parts, and these in their order. -/
lemma collect_eq (c : Construct) :
    c.collect f = c.found f ++ c.parts.flatMap (collect f) := by
  cases c with
  | expr e => cases e <;> simp [collect, found, parts, Expr.collect, collectPieces_eq]
  | piece p => cases p <;> simp [collect, found, parts, Piece.collect]
  | factor t =>
    cases t <;> simp [collect, found, parts, TableFactor.collect, collectPieces_eq,
      collectAlias_eq]
  | constraint c => cases c <;> simp [collect, found, parts, JoinConstraint.collect]
  | join j =>
    cases j
    simp [collect, found, parts, Join.collect, collectOption_eq]
  | table t =>
    cases t
    simp [collect, found, parts, TableWithJoins.collect, collectJoins_eq]
  | cte c =>
    cases c
    simp [collect, found, parts, collectCtes]
  | key k =>
    cases k
    simp [collect, found, parts, collectKeys, collectPieces_eq]
  | query q =>
    cases q
    simp [collect, found, parts, Query.collect, collectCtes_eq, collectKeys_eq, collectPieces_eq,
      collectOption_eq]
  | body b => cases b <;> simp [collect, found, parts, Body.collect, collectPieces_eq]
  | item i =>
    cases i with
    | expr e alias? => cases alias? <;> simp [collect, found, parts, collectItems]
    | wildcard qualifier options => simp [collect, found, parts, collectItems, collectPieces_eq]
  | distinct d => cases d <;> simp [collect, found, parts, Distinct.collect, collectExprs_eq]
  | select s =>
    cases s
    simp [collect, found, parts, Select.collect, collectPieces_eq, collectItems_eq,
      collectTables_eq, collectOption_eq, collectExprs_eq]
  | statement s =>
    cases s with
    | query q => simp [collect, found, parts, Statement.collect]
    | update u =>
      cases u
      simp [collect, found, parts, Statement.collect, collectPieces_eq, collectTableOption_eq,
        collectOption_eq]
    | delete d =>
      cases d
      simp [collect, found, parts, Statement.collect, collectPieces_eq, collectTables_eq,
        collectOption_eq]
    | other pieces => simp [collect, found, parts, Statement.collect, collectPieces_eq]
  | given name => simp [collect, found, parts]

section Size

lemma sizeOf_lt_of_mem_map {β : Type} [SizeOf β] {g : β → Construct}
    (hg : ∀ b, sizeOf (g b) = 1 + sizeOf b) {l : List β} {part : Construct}
    (h : part ∈ l.map g) : sizeOf part < 1 + sizeOf l := by
  obtain ⟨b, hb, rfl⟩ := List.mem_map.1 h
  have := List.sizeOf_lt_of_mem hb
  rw [hg]
  omega

lemma sizeOf_lt_of_mem_option {β : Type} [SizeOf β] {g : β → Construct}
    (hg : ∀ b, sizeOf (g b) = 1 + sizeOf b) {b? : Option β} {part : Construct}
    (h : part ∈ b?.toList.map g) : sizeOf part < 1 + sizeOf b? := by
  obtain ⟨b, hb, rfl⟩ := List.mem_map.1 h
  obtain rfl := Option.mem_toList.1 hb
  rw [hg, Option.some.sizeOf_spec]
  omega

lemma sizeOf_lt_of_mem_ofAlias {alias? : Option TableAlias} {part : Construct}
    (h : part ∈ ofAlias alias?) : sizeOf part < sizeOf alias? := by
  cases alias? with
  | none => cases h
  | some a =>
    cases a
    obtain rfl := List.mem_singleton.1 h
    simp only [given.sizeOf_spec, Option.some.sizeOf_spec, TableAlias.mk.sizeOf_spec]
    omega

lemma sizeOf_lt_of_mem_parts {c part : Construct} (h : part ∈ c.parts) :
    sizeOf part < sizeOf c := by
  have hpieces {l : List Piece} := @sizeOf_lt_of_mem_map _ _ piece (fun _ => rfl) l part
  have hexprs {l : List Expr} := @sizeOf_lt_of_mem_map _ _ expr (fun _ => rfl) l part
  have hexpr {e? : Option Expr} := @sizeOf_lt_of_mem_option _ _ expr (fun _ => rfl) e? part
  have hjoins {l : List Join} := @sizeOf_lt_of_mem_map _ _ join (fun _ => rfl) l part
  have htables {l : List TableWithJoins} := @sizeOf_lt_of_mem_map _ _ table (fun _ => rfl) l part
  have htable {t? : Option TableWithJoins} :=
    @sizeOf_lt_of_mem_option _ _ table (fun _ => rfl) t? part
  have hctes {l : List Cte} := @sizeOf_lt_of_mem_map _ _ cte (fun _ => rfl) l part
  have hkeys {l : List OrderKey} := @sizeOf_lt_of_mem_map _ _ key (fun _ => rfl) l part
  have hitems {l : List SelectItem} := @sizeOf_lt_of_mem_map _ _ item (fun _ => rfl) l part
  have hgiven {name? : Option Ident} :=
    @sizeOf_lt_of_mem_option _ _ given (fun _ => rfl) name? part
  have halias {alias? : Option TableAlias} := @sizeOf_lt_of_mem_ofAlias alias? part
  cases c with
  | expr e => cases e <;> simp only [parts, List.mem_cons, List.not_mem_nil] at h <;> grind
  | piece p => cases p <;> simp only [parts, List.mem_cons, List.not_mem_nil] at h <;> grind
  | factor t => cases t <;> simp only [parts, List.mem_append, List.mem_cons] at h <;> grind
  | constraint c => cases c <;> simp only [parts, List.mem_cons, List.not_mem_nil] at h <;> grind
  | join j =>
    cases j
    simp only [parts, List.mem_append, List.mem_cons] at h
    grind
  | table t =>
    cases t
    simp only [parts, List.mem_cons] at h
    grind
  | cte c =>
    obtain ⟨⟨_, _⟩, _⟩ := c
    simp only [parts, List.mem_cons] at h
    grind
  | key k =>
    cases k
    simp only [parts, List.mem_cons] at h
    grind
  | query q =>
    cases q
    simp only [parts, List.mem_append, List.mem_cons] at h
    grind
  | body b => cases b <;> simp only [parts, List.mem_cons, List.not_mem_nil] at h <;> grind
  | item i => cases i <;> simp only [parts, List.mem_cons] at h <;> grind
  | distinct d => cases d <;> simp only [parts, List.not_mem_nil] at h <;> grind
  | select s =>
    cases s
    simp only [parts, List.mem_append, List.mem_cons] at h
    grind
  | statement s =>
    cases s with
    | query q =>
      simp only [parts, List.mem_cons] at h
      grind
    | update u =>
      cases u
      simp only [parts, List.mem_append, List.mem_cons] at h
      grind
    | delete d =>
      cases d
      simp only [parts, List.mem_append] at h
      grind
    | other pieces =>
      simp only [parts] at h
      grind
  | given name => cases h

end Size

/-- Collecting passes every construct that stands anywhere within, and nothing else. -/
theorem mem_collect_iff (c : Construct) (a : α) :
    a ∈ c.collect f ↔ ∃ place part, c.at? place = some part ∧ a ∈ part.found f := by
  constructor
  · intro h
    rw [collect_eq, List.mem_append, List.mem_flatMap] at h
    rcases h with hfound | ⟨part, hpart, h⟩
    · exact ⟨[], c, rfl, hfound⟩
    · have := sizeOf_lt_of_mem_parts hpart
      obtain ⟨n, hn⟩ := List.mem_iff_getElem?.1 hpart
      obtain ⟨place, inner, hinner, hfound⟩ := (mem_collect_iff part a).1 h
      exact ⟨n :: place, inner, by rw [at?, hn]; exact hinner, hfound⟩
  · rintro ⟨place, part, hpart, hfound⟩
    rw [collect_eq, List.mem_append]
    cases place with
    | nil =>
      obtain rfl : c = part := Option.some.inj hpart
      exact .inl hfound
    | cons n place =>
      obtain ⟨next, hnext, hpart⟩ := Option.bind_eq_some_iff.1 hpart
      have := sizeOf_lt_of_mem_parts (List.mem_of_getElem? hnext)
      exact .inr (List.mem_flatMap.2 ⟨next, List.mem_of_getElem? hnext,
        (mem_collect_iff next a).2 ⟨place, part, hpart, hfound⟩⟩)
termination_by sizeOf c

end Construct

end RowFence.Sql
