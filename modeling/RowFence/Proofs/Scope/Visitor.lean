import Mathlib.Data.List.Basic
import RowFence.Proofs.Sql.Outermost
import RowFence.Scope

/-! A visitor that counts the queries and the subquery tables it stands in, and hands a query over to
scoping where the count is zero. The query is scoped where it stands, before the visitor goes on into
it. What is handed over are the outermost queries, and the scoping of constructs changes just these. -/

namespace RowFence.Scope

open Sql Construct

/-- How many queries and subquery tables the visitor stands in, and the queries handed over so far. -/
structure Visit where
  depth : Nat
  handed : List Query

namespace Visit

variable (o : Order) (rewrite : Query → Query)

/-- The visitor comes to a construct, which it goes on with as it is left. -/
def enter (s : Visit) : Construct → Construct × Visit
  | .query q =>
    if s.depth = 0 then (.query (rewrite q), ⟨s.depth + 1, s.handed ++ [q]⟩)
    else (.query q, ⟨s.depth + 1, s.handed⟩)
  | .factor (.derived lateral q alias?) =>
    (.factor (.derived lateral q alias?), ⟨s.depth + 1, s.handed⟩)
  | c => (c, s)

def leave (s : Visit) (c : Construct) : Option Visit :=
  if c.encloses then
    match s.depth with
    | 0 => none -- the count would have to go below zero
    | depth + 1 => some ⟨depth, s.handed⟩
  else some s

/-- Visits a construct, its parts and the parts of these, down to a bound. -/
def walk : (bound : Nat) → Visit → Construct → Option Visit
  | 0, _, _ => none
  | bound + 1, s, c => do
    let (c, s) := s.enter rewrite c
    let s ← (o.parts c).foldlM (walk bound) s
    s.leave c

variable {s : Visit} {cs : List Construct} {c : Construct} {bound : Nat}

lemma enter_inside (hc : c.encloses = true) (h : s.depth ≠ 0) :
    s.enter rewrite c = (c, ⟨s.depth + 1, s.handed⟩) := by
  cases c with
  | query q => exact if_neg h
  | factor t => cases t with
    | derived lateral q alias? => rfl
    | _ => cases hc
  | _ => cases hc

lemma enter_open (hc : c.encloses = false) (s : Visit) : s.enter rewrite c = (c, s) := by
  cases c with
  | query q => cases hc
  | factor t => cases t with
    | derived lateral q alias? => cases hc
    | _ => rfl
  | _ => rfl

lemma leave_enclosing (h : c.encloses = true) (depth : Nat) (handed : List Query) :
    leave ⟨depth + 1, handed⟩ c = some ⟨depth, handed⟩ := if_pos h

lemma leave_open (h : c.encloses = false) (s : Visit) : s.leave c = some s :=
  if_neg (by rw [h]; exact Bool.false_ne_true)

lemma foldlM_unchanged {f : Visit → Construct → Option Visit} (h : ∀ c ∈ cs, f s c = some s) :
    cs.foldlM f s = some s := by
  induction cs with
  | nil => rfl
  | cons c cs ih =>
    obtain ⟨hc, hcs⟩ := List.forall_mem_cons.mp h
    rw [List.foldlM_cons, hc]
    exact ih hcs

lemma walk_inside (hsize : sizeOf c ≤ bound) (h : s.depth ≠ 0) : walk o rewrite bound s c = some s := by
  induction bound generalizing s c with
  | zero => exact absurd hsize (Nat.not_le_of_lt (sizeOf_pos c))
  | succ bound ih =>
    have hparts {s : Visit} (h : s.depth ≠ 0) : (o.parts c).foldlM (walk o rewrite bound) s = some s := by
      refine foldlM_unchanged fun part hpart => ih ?_ h
      have := sizeOf_lt_of_mem_order o hpart
      omega
    cases hc : c.encloses with
    | true =>
      rw [walk, enter_inside rewrite hc h]
      dsimp only
      rw [hparts (Nat.succ_ne_zero _)]
      exact leave_enclosing hc s.depth s.handed
    | false =>
      rw [walk, enter_open rewrite hc]
      dsimp only
      rw [hparts h]
      exact leave_open hc s

lemma walkParts_inside (hsize : sizeOf c ≤ bound) (h : s.depth ≠ 0) :
    (o.parts c).foldlM (walk o rewrite bound) s = some s := by
  refine foldlM_unchanged fun part hpart => walk_inside o rewrite ?_ h
  have := sizeOf_lt_of_mem_order o hpart
  omega

/-- Within a large enough bound the visitor comes to the end, where it stands in nothing again and has
handed over the outermost queries. -/
def HandsOver (cs : List Construct) : Prop :=
  ∃ enough, ∀ bound ≥ enough, ∀ handed, cs.foldlM (walk o rewrite bound) ⟨0, handed⟩ =
    some ⟨0, handed ++ cs.flatMap (outermost o)⟩

variable {o rewrite}

lemma HandsOver.nil : HandsOver o rewrite [] :=
  ⟨0, fun _ _ handed => by rw [List.flatMap_nil, List.append_nil]; rfl⟩

lemma HandsOver.cons (hc : HandsOver o rewrite [c]) (hcs : HandsOver o rewrite cs) :
    HandsOver o rewrite (c :: cs) := by
  obtain ⟨n, hc⟩ := hc
  obtain ⟨m, hcs⟩ := hcs
  refine ⟨max n m, fun bound hbound handed => ?_⟩
  have hfirst := hc bound (Nat.le_trans (Nat.le_max_left n m) hbound) handed
  simp only [List.foldlM_cons, List.foldlM_nil, bind_pure, List.flatMap_singleton] at hfirst
  rw [List.foldlM_cons, hfirst, List.flatMap_cons, ← List.append_assoc]
  exact hcs bound (Nat.le_trans (Nat.le_max_right n m) hbound) (handed ++ outermost o c)

lemma HandsOver.of_walk (enough : Nat) (h : ∀ bound ≥ enough, ∀ handed,
    walk o rewrite (bound + 1) ⟨0, handed⟩ c = some ⟨0, handed ++ outermost o c⟩) :
    HandsOver o rewrite [c] := by
  refine ⟨enough + 1, fun bound hbound handed => ?_⟩
  obtain ⟨bound, rfl⟩ := Nat.exists_eq_add_of_le' hbound
  simp only [List.foldlM_cons, List.foldlM_nil, bind_pure, List.flatMap_singleton]
  exact h (bound + enough) (Nat.le_add_left _ _) handed

lemma handsOver_query (q : Query) : HandsOver o rewrite [query q] := by
  refine .of_walk (sizeOf (query (rewrite q))) fun bound hbound handed => ?_
  rw [walk, enter, if_pos rfl, outermost_query]
  dsimp only
  rw [walkParts_inside o rewrite hbound (Nat.succ_ne_zero 0)]
  rfl

lemma handsOver_derived (lateral : Bool) (q : Query) (alias? : Option TableAlias) :
    HandsOver o rewrite [factor (.derived lateral q alias?)] := by
  refine .of_walk (sizeOf (factor (.derived lateral q alias?))) fun bound hbound handed => ?_
  rw [walk, enter, outermost_derived, List.append_nil]
  dsimp only
  rw [walkParts_inside o rewrite hbound (Nat.succ_ne_zero 0)]
  rfl

lemma handsOver_open (hc : c.encloses = false) (hparts : HandsOver o rewrite (o.parts c)) :
    HandsOver o rewrite [c] := by
  obtain ⟨enough, hparts⟩ := hparts
  refine .of_walk enough fun bound hbound handed => ?_
  rw [walk, enter_open rewrite hc]
  dsimp only
  rw [hparts bound hbound, outermost_eq_flatMap o hc]
  exact leave_open hc _

lemma handsOver_of_forall (h : ∀ c ∈ cs, HandsOver o rewrite [c]) : HandsOver o rewrite cs := by
  induction cs with
  | nil => exact .nil
  | cons c cs ih =>
    obtain ⟨hc, hcs⟩ := List.forall_mem_cons.mp h
    exact hc.cons (ih hcs)

lemma handsOver_singleton (c : Construct) : HandsOver o rewrite [c] := by
  -- A scoped query may be larger than it was, so that the size of the construct is no bound: enough
  -- for each query is the size of what scoping makes of it.
  cases hc : c.encloses with
  | false =>
    refine handsOver_open hc (handsOver_of_forall fun part hpart => ?_)
    have := sizeOf_lt_of_mem_order o hpart
    exact handsOver_singleton part
  | true =>
    cases c with
    | query q => exact handsOver_query q
    | factor t => cases t with
      | derived lateral q alias? => exact handsOver_derived lateral q alias?
      | _ => cases hc
    | _ => cases hc
termination_by sizeOf c

lemma handsOver (cs : List Construct) : HandsOver o rewrite cs :=
  handsOver_of_forall fun c _ => handsOver_singleton c

end Visit

end RowFence.Scope
