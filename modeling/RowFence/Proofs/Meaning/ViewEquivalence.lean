import RowFence.Proofs.Meaning.Lookup
import RowFence.Proofs.Meaning.Numbers
import RowFence.Proofs.Meaning.Scoping

/-! A scoped query gives on a database what the query gives on the tenant's part of it. -/

namespace RowFence.Meaning

open Sql Scope

variable {V : Type}

def Layout.isLeaf : Layout → Bool
  | .base .. => true
  | .derived _ => true
  | _ => false

def isPlainJoin (op : JoinOp) (hasOn : Bool) (right : Layout) : Bool :=
  match op with
  | .inner | .cross => true
  | .left => hasOn && right.isLeaf
  | _ => false

section

variable {p : Policy} {t : TenantId} {c : Common V} (E : Engine V) {D : Store V} {env : Env V}

lemma Keeps.hits {passR : Frame V → Bool} {takes : Bool} {op : JoinOp} {link link' : Link V}
    {f : Frame V} {second second' : Source V} (hsecond : Keeps passR second second')
    (hlinks : ∀ g ∈ second.rows,
      E.links env op link' f g = (E.links env op link f g && (!takes || passR g))) :
    (second.rows.filter (E.links env op link' f)).filter (fun g => takes || passR g) =
      second'.rows.filter (E.links env op link f) := by
  rw [← hsecond.rows, List.filter_filter, List.filter_filter]
  refine List.filter_congr fun g hg => ?_
  rw [hlinks g hg]
  cases takes <;> cases passR g <;> cases E.links env op link f g <;> rfl

lemma Keeps.joined {op : JoinOp} {link link' : Link V} {right : Layout}
    (hop : isPlainJoin op link.hasOn right = true) (hmerged : link'.merged = link.merged)
    {passL passR pass : Frame V → Bool} (takes : Bool)
    (hpass : ∀ f g, pass (.join op link.merged f g) = (passL f && (takes || passR g)))
    {first first' : Source V} {second second' : Frame V → Source V}
    (hfirst : Keeps passL first first') (hsecond : ∀ f, Keeps passR (second f) (second' f))
    (hlinks : ∀ f ∈ first.rows, ∀ g ∈ (second f).rows,
      E.links env op link' f g = (E.links env op link f g && (!takes || passR g)))
    (hleft : op = .left → ∀ g, (takes || passR g) = true) (matching : Option (Term V)) :
    Keeps pass (E.joined env op link' first second matching)
      (E.joined env op link first' second' matching) := by
  have hblank : Frame.join op link'.merged first.blank (second first.blank).blank =
      .join op link.merged first'.blank (second' first'.blank).blank := by
    rw [hmerged, hfirst.blank, (hsecond _).blank]
  rw [← hmerged] at hpass
  have hhits : ∀ f ∈ first'.rows, (E.hits env op link' second f).filter (fun g => takes || passR g) =
      E.hits env op link second' f := by
    intro f hf
    rw [← hfirst.rows] at hf
    exact (hsecond f).hits E (hlinks f (List.mem_filter.mp hf).1)
  have hinner : (pairs op link' first (E.hits env op link' second)).filter pass =
      pairs op link first' (E.hits env op link second') := by
    rw [filter_pairs hpass, hfirst.rows, hmerged]
    exact List.flatMap_congr fun f hf => by rw [hhits f hf]
  cases op with
  | inner => exact ⟨hblank, hinner⟩
  | cross => exact ⟨hblank, hinner⟩
  | left =>
    refine ⟨hblank, ?_⟩
    have hall : (fun g => takes || passR g) = fun _ => true := funext (hleft rfl)
    refine (filter_pairs hpass fun f =>
      padded (second f).blank (E.hits env .left link' second f)).trans ?_
    rw [hfirst.rows, hmerged, hall]
    refine List.flatMap_congr fun f hf => ?_
    have := hhits f hf
    rw [hall, List.filter_true] at this
    rw [List.filter_true, this, (hsecond f).blank]
  | _ => exact absurd hop Bool.false_ne_true

end

end RowFence.Meaning
