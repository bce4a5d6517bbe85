import Mathlib.Tactic.Lemma

/-! Small letters of ASCII. All but the capital letters stay as they are, and nothing becomes a mark
that was not one before. -/

namespace RowFence.Text

lemma isCapital_iff (c : Char) :
    (c.val ≥ 'A'.val ∧ c.val ≤ 'Z'.val) ↔ 65 ≤ c.toNat ∧ c.toNat ≤ 90 := by
  simp only [ge_iff_le, UInt32.le_iff_toNat_le]
  rfl

lemma toNat_toLower (c : Char) :
    c.toLower.toNat = if 65 ≤ c.toNat ∧ c.toNat ≤ 90 then c.toNat + 32 else c.toNat := by
  unfold Char.toLower
  by_cases h : 65 ≤ c.toNat ∧ c.toNat ≤ 90
  · rw [dif_pos ((isCapital_iff c).mpr h), if_pos h]
    show (c.val + 32).toNat = c.toNat + 32
    rw [UInt32.toNat_add]
    show (c.toNat + 32) % 4294967296 = c.toNat + 32
    omega
  · rw [dif_neg (mt (isCapital_iff c).mp h), if_neg h]

lemma toLower_eq_self {c : Char} (h : ¬ (65 ≤ c.toNat ∧ c.toNat ≤ 90)) : c.toLower = c := by
  rw [← Char.toNat_inj, toNat_toLower, if_neg h]

lemma toLower_eq_self_iff (c : Char) : c.toLower = c ↔ c.isUpper = false := by
  have hupper : c.isUpper = true ↔ 65 ≤ c.toNat ∧ c.toNat ≤ 90 :=
    decide_eq_true_iff.trans (isCapital_iff c)
  rw [← Char.toNat_inj, toNat_toLower, ← Bool.not_eq_true, hupper]
  split <;> omega

lemma toLower_toLower (c : Char) : c.toLower.toLower = c.toLower := by
  apply toLower_eq_self
  rw [toNat_toLower]
  split <;> omega

section Mark

variable {mark : Char} (h : ¬ (65 ≤ mark.toNat ∧ mark.toNat ≤ 90))
  (h' : ¬ (97 ≤ mark.toNat ∧ mark.toNat ≤ 122))

include h h'

lemma toLower_eq_iff {c : Char} : c.toLower = mark ↔ c = mark := by
  rw [← Char.toNat_inj, ← Char.toNat_inj, toNat_toLower]
  split <;> omega

lemma toLower_bne (c : Char) : (c.toLower != mark) = (c != mark) := by
  rw [Bool.eq_iff_iff, bne_iff_ne, bne_iff_ne, ne_eq, ne_eq, toLower_eq_iff h h']

end Mark

end RowFence.Text
