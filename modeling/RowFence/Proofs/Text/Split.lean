import Mathlib.Data.List.Basic
import RowFence.Proofs.Text.Blank
import RowFence.Text.Digits
import RowFence.Text.Split

/-! Texts in pieces, and numbers in them. Neither the pieces nor the numbers change when a text is put
in small letters. -/

namespace RowFence.Text

lemma isDigit_iff (c : Char) : c.isDigit = true ↔ 48 ≤ c.toNat ∧ c.toNat ≤ 57 := by
  simp only [Char.isDigit, Bool.and_eq_true, decide_eq_true_eq, ge_iff_le, UInt32.le_iff_toNat_le]
  rfl

lemma isDigit_toLower (c : Char) : c.toLower.isDigit = c.isDigit := by
  rw [Bool.eq_iff_iff, isDigit_iff, isDigit_iff, toNat_toLower]
  split <;> omega

lemma toLower_of_isDigit {c : Char} (h : c.isDigit = true) : c.toLower = c := by
  rw [isDigit_iff] at h
  exact toLower_eq_self (by omega)

lemma decimal?_map_toLower (cs : List Char) : decimal? (cs.map Char.toLower) = decimal? cs := by
  have hall : (cs.map Char.toLower).all Char.isDigit = cs.all Char.isDigit := by
    rw [List.all_map]
    exact congrArg (cs.all ·) (funext isDigit_toLower)
  unfold decimal?
  rw [hall, List.isEmpty_map]
  cases h : cs.all Char.isDigit with
  | false => simp only [Bool.and_false, Bool.false_eq_true, if_false]
  | true =>
    have hsame : cs.map Char.toLower = cs := by
      refine (List.map_congr_left fun c hc => ?_).trans (List.map_id cs)
      exact toLower_of_isDigit (List.all_eq_true.mp h c hc)
    rw [hsame]

section Pieces

variable {mark : Char}

lemma splitAt_ne_nil (mark : Char) (cs : List Char) : splitAt mark cs ≠ [] := by
  cases cs with
  | nil => exact List.cons_ne_nil _ _
  | cons c cs =>
    rw [splitAt]
    split
    · exact List.cons_ne_nil _ _
    · split <;> exact List.cons_ne_nil _ _

lemma splitAt_cons (c : Char) (cs : List Char) : splitAt mark (c :: cs) =
    if c = mark then [] :: splitAt mark cs else (splitAt mark cs).modifyHead (c :: ·) := by
  rw [splitAt]
  split
  · rename_i hnil
    exact absurd hnil (splitAt_ne_nil mark cs)
  · rename_i piece pieces hpieces
    rw [hpieces]
    rfl

lemma splitAt_append_mark (cs cs' : List Char) :
    splitAt mark (cs ++ mark :: cs') = splitAt mark cs ++ splitAt mark cs' := by
  induction cs with
  | nil => rw [List.nil_append, splitAt_cons, if_pos rfl]; rfl
  | cons c cs ih =>
    rw [List.cons_append, splitAt_cons, splitAt_cons, ih]
    split
    · rfl
    · obtain ⟨piece, pieces, hpieces⟩ := List.exists_cons_of_ne_nil (splitAt_ne_nil mark cs)
      rw [hpieces]
      rfl

lemma splitAt_map {f : Char → Char} (hf : ∀ c, f c = mark ↔ c = mark) (cs : List Char) :
    splitAt mark (cs.map f) = (splitAt mark cs).map (List.map f) := by
  induction cs with
  | nil => rfl
  | cons c cs ih =>
    rw [List.map_cons, splitAt_cons, splitAt_cons, ih]
    simp only [hf]
    split
    · rfl
    · obtain ⟨piece, pieces, hpieces⟩ := List.exists_cons_of_ne_nil (splitAt_ne_nil mark cs)
      rw [hpieces]
      rfl

end Pieces

end RowFence.Text
