import Mathlib.Data.List.Basic
import RowFence.Proofs.Sql.Construct

/-! The outermost queries of a construct: those with no other query, and no table that is a subquery,
between them and the construct. -/

namespace RowFence.Sql.Construct

structure Order where
  parts : Construct → List Construct
  perm (c : Construct) : (parts c).Perm c.parts

def Order.written : Order := ⟨Construct.parts, fun _ => .refl _⟩

def encloses : Construct → Bool
  | query _ => true
  | factor (.derived ..) => true
  | _ => false

/-- A construct where it stands, with those that it stands in, the nearest first. -/
structure Standing where
  within : List Construct
  construct : Construct

def Standing.outermost? (s : Standing) : Option Query :=
  match s.construct with
  | query q => if s.within.any encloses then none else some q
  | _ => none

lemma sizeOf_pos (c : Construct) : 0 < sizeOf c := by
  cases c <;> exact Nat.add_pos_left Nat.one_pos _

variable (o : Order)

lemma sizeOf_lt_of_mem_order {c part : Construct} (h : part ∈ o.parts c) : sizeOf part < sizeOf c :=
  sizeOf_lt_of_mem_parts ((o.perm c).mem_iff.mp h)

/-- Everything that stands in a construct, in the order of the visit, the construct first. -/
def standings (within : List Construct) (c : Construct) : List Standing :=
  ⟨within, c⟩ :: (o.parts c).attach.flatMap fun part => standings (c :: within) part.1
termination_by sizeOf c
decreasing_by exact sizeOf_lt_of_mem_order o part.2

def outermost (c : Construct) : List Query := (standings o [] c).filterMap Standing.outermost?

lemma standings_eq (within : List Construct) (c : Construct) :
    standings o within c = ⟨within, c⟩ :: (o.parts c).flatMap (standings o (c :: within)) := by
  rw [standings, List.flatMap_subtype fun _ _ => rfl, List.unattach_attach]

lemma filterMap_standings_eq (within : List Construct) (c : Construct) :
    (standings o within c).filterMap Standing.outermost? =
      (Standing.outermost? ⟨within, c⟩).toList ++ (o.parts c).flatMap fun part =>
        (standings o (c :: within) part).filterMap Standing.outermost? := by
  rw [standings_eq, List.filterMap_cons, List.filterMap_flatMap]
  cases Standing.outermost? ⟨within, c⟩ <;> rfl

lemma outermost?_eq_none {within : List Construct} (h : within.any encloses = true) (c : Construct) :
    Standing.outermost? ⟨within, c⟩ = none := by
  cases c <;> simp [Standing.outermost?, h]

lemma outermost?_congr {within : List Construct} (h : within.any encloses = false) (c : Construct) :
    Standing.outermost? ⟨within, c⟩ = Standing.outermost? ⟨[], c⟩ := by
  cases c <;> simp [Standing.outermost?, h]

lemma filterMap_standings_of_any {within : List Construct} (h : within.any encloses = true)
    (c : Construct) : (standings o within c).filterMap Standing.outermost? = [] := by
  rw [filterMap_standings_eq, outermost?_eq_none h, Option.toList_none, List.nil_append,
    List.flatMap_eq_nil_iff]
  intro part hpart
  have := sizeOf_lt_of_mem_order o hpart
  exact filterMap_standings_of_any (by rw [List.any_cons, h, Bool.or_true]) part
termination_by sizeOf c

lemma filterMap_standings {within : List Construct} (h : within.any encloses = false)
    (c : Construct) : (standings o within c).filterMap Standing.outermost? = outermost o c := by
  rw [outermost, filterMap_standings_eq, filterMap_standings_eq, outermost?_congr h]
  congr 1
  refine List.flatMap_congr fun part hpart => ?_
  have := sizeOf_lt_of_mem_order o hpart
  -- Below an enclosing construct neither list has a query; below any other, what is outside still
  -- encloses nothing.
  cases hc : c.encloses with
  | true =>
    rw [filterMap_standings_of_any o (by simp [hc]), filterMap_standings_of_any o (by simp [hc])]
  | false =>
    rw [filterMap_standings (by simp [hc, h]) part, filterMap_standings (by simp [hc]) part]
termination_by sizeOf c

lemma outermost_of_encloses {c : Construct} (h : c.encloses = true) :
    outermost o c = (Standing.outermost? ⟨[], c⟩).toList := by
  have hparts : ((o.parts c).flatMap fun part =>
      (standings o [c] part).filterMap Standing.outermost?) = [] := by
    rw [List.flatMap_eq_nil_iff]
    intro part _
    exact filterMap_standings_of_any o (by simp [h]) part
  rw [outermost, filterMap_standings_eq, hparts, List.append_nil]

lemma outermost_query (q : Query) : outermost o (query q) = [q] := outermost_of_encloses o rfl

lemma outermost_derived (lateral : Bool) (q : Query) (alias? : Option TableAlias) :
    outermost o (factor (.derived lateral q alias?)) = [] := outermost_of_encloses o rfl

lemma outermost_eq_flatMap {c : Construct} (h : c.encloses = false) :
    outermost o c = (o.parts c).flatMap (outermost o) := by
  have hnone : Standing.outermost? ⟨[], c⟩ = none := by
    cases c with
    | query q => cases h
    | _ => rfl
  rw [outermost, filterMap_standings_eq, hnone, Option.toList_none, List.nil_append]
  exact List.flatMap_congr fun part _ => filterMap_standings o (by simp [h]) part

end RowFence.Sql.Construct
