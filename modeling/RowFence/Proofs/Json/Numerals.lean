import Mathlib.Data.List.Basic
import Mathlib.Data.List.TakeWhile
import RowFence.Policy.ConfigJson
import RowFence.Proofs.Json.Reading

/-! Numbers of JSON as they are written: integers of 64 bits are read as what they are written for, and
any other number is read over to its end. -/

namespace RowFence.Json

open Reader

section Digits

variable {digits rest : List Char}

def IsDigits (digits : List Char) : Prop := digits ≠ [] ∧ digits.all Char.isDigit = true

/-- The digits before the point: one zero, or no zero first. -/
def IsWhole (digits : List Char) : Prop :=
  digits = ['0'] ∨ IsDigits digits ∧ digits.head? ≠ some '0'

def EndsDigits (rest : List Char) : Prop := ∀ c ∈ rest.head?, c.isDigit = false

/-- Nothing follows that would belong to a number. -/
structure EndsNumber (rest : List Char) : Prop where
  digits : EndsDigits rest
  point : rest.head? ≠ some '.'
  mark : isExponentMark rest.head? = false

lemma EndsNumber.nil : EndsNumber [] := ⟨nofun, nofun, rfl⟩

lemma EndsNumber.cons {c : Char} (hdigit : c.isDigit = false) (hpoint : c ≠ '.')
    (hmark : isExponentMark (some c) = false) (rest : List Char) : EndsNumber (c :: rest) where
  digits d hd := by
    obtain rfl := Option.some.inj hd
    exact hdigit
  point h := hpoint (Option.some.inj h)
  mark := hmark

lemma IsDigits.exists_cons (h : IsDigits digits) :
    ∃ d ds, digits = d :: ds ∧ d.isDigit = true := by
  obtain ⟨d, ds, rfl⟩ := List.exists_cons_of_ne_nil h.1
  exact ⟨d, ds, rfl, List.all_eq_true.mp h.2 d List.mem_cons_self⟩

lemma IsWhole.isDigits (h : IsWhole digits) : IsDigits digits := by
  obtain rfl | ⟨h, -⟩ := h
  · exact ⟨List.cons_ne_nil _ _, rfl⟩
  · exact h

lemma span_digits (hdigits : digits.all Char.isDigit = true) (hrest : EndsDigits rest) :
    (digits ++ rest).takeWhile Char.isDigit = digits ∧
      (digits ++ rest).dropWhile Char.isDigit = rest := by
  rw [List.all_eq_true] at hdigits
  rw [List.takeWhile_append_of_pos hdigits, List.dropWhile_append_of_pos hdigits]
  cases rest with
  | nil => exact ⟨List.append_nil _, rfl⟩
  | cons c rest =>
    have hc : ¬ c.isDigit = true := by simp [hrest c rfl]
    rw [List.takeWhile_cons_of_neg hc, List.dropWhile_cons_of_neg hc, List.append_nil]
    exact ⟨rfl, rfl⟩

lemma isDigits_toDigits (n : Nat) : IsDigits (Nat.toDigits 10 n) :=
  ⟨Nat.toDigits_ne_nil,
    List.all_eq_true.mpr fun _ h => Nat.isDigit_of_mem_toDigits (by decide) (by decide) h⟩

lemma head_toDigits {n : Nat} (h : n ≠ 0) : (Nat.toDigits 10 n).head? ≠ some '0' := by
  induction n using Nat.strong_induction_on with
  | _ n ih =>
    by_cases hlt : n < 10
    · rw [Nat.toDigits_of_lt_base hlt, List.head?_cons, ne_eq, Option.some_inj,
        Nat.digitChar_eq_zero]
      exact h
    · rw [Nat.toDigits_of_base_le (by decide) (by omega), List.head?_append_of_ne_nil _
        Nat.toDigits_ne_nil]
      exact ih (n / 10) (by omega) (by omega)

lemma isWhole_toDigits (n : Nat) : IsWhole (Nat.toDigits 10 n) := by
  by_cases h : n = 0
  · subst h
    exact .inl (Nat.toDigits_zero 10)
  · exact .inr ⟨isDigits_toDigits n, head_toDigits h⟩

end Digits

section Integers

variable {digits rest : List Char}

lemma le_ofDigitChars (digits : List Char) (n : Nat) : n ≤ Nat.ofDigitChars 10 digits n := by
  rw [Nat.ofDigitChars_eq_ofDigitChars_zero]
  have := Nat.le_mul_of_pos_left n (Nat.pow_pos (n := digits.length) (by decide : 0 < 10))
  omega

lemma gather_eq {n : Nat} (h : Nat.ofDigitChars 10 digits n < Nat.pow 2 64) :
    gather n digits = (Nat.ofDigitChars 10 digits n, []) := by
  induction digits generalizing n with
  | nil => rfl
  | cons d ds ih =>
    rw [Nat.ofDigitChars_cons] at h ⊢
    -- What is gathered only grows, so that it fits after each digit if it does after the last.
    have hfits : 10 * n + (d.toNat - '0'.toNat) < Nat.pow 2 64 := (le_ofDigitChars ds _).trans_lt h
    exact (if_pos hfits).trans (ih h)

def signText (negative : Bool) : List Char := if negative then ['-'] else []

lemma toList_toString (i : Int) :
    (toString i).toList = signText (decide (i < 0)) ++ Nat.toDigits 10 i.natAbs := by
  rw [Int.toString_eq_repr, Int.repr_eq_if]
  by_cases h : 0 ≤ i
  · have hsize : i.toNat = i.natAbs := by omega
    rw [if_pos h, Nat.toList_repr, hsize, decide_eq_false (by omega)]
    rfl
  · have hsize : (-i).toNat = i.natAbs := by omega
    rw [if_neg h, String.toList_append, Nat.toList_repr, hsize, decide_eq_true (by omega)]
    rfl

lemma head_signText {negative : Bool} (h : IsDigits digits) :
    ((signText negative ++ (digits ++ rest)).head? == some '-') = negative := by
  cases negative with
  | true => rfl
  | false =>
    obtain ⟨d, ds, rfl⟩ := List.exists_cons_of_ne_nil h.1
    refine beq_false_of_ne fun hd => ?_
    obtain rfl : d = '-' := Option.some.inj hd
    exact absurd h.2 (by simp)

lemma Reads.signed {α : Type} {f : Unit → Reader α} {a : α} {text : List Char} (negative : Bool)
    (hf : Reads (f ()) text a rest) :
    Reads (if negative = true then skip >>= f else f ()) (signText negative ++ text) a rest := by
  cases negative with
  | true => exact (reads_skip '-' text).bind hf
  | false => exact hf

lemma not_isDigit_head (h : EndsDigits rest) : (rest.head?.map Char.isDigit).getD false = false := by
  cases rest with
  | nil => rfl
  | cons c rest => exact h c rfl

lemma reads_wholeDigits (h : IsWhole digits) (hrest : EndsDigits rest) :
    Reads wholeDigits (digits ++ rest) digits rest := by
  refine (reads_peek _).bind ?_
  obtain rfl | ⟨hdigits, hzero⟩ := h
  · refine (reads_skip '0' rest).bind ((reads_peek rest).bind ?_)
    rw [not_isDigit_head hrest]
    exact .pure ['0'] rest
  · obtain ⟨d, ds, rfl, hd⟩ := hdigits.exists_cons
    obtain ⟨htake, hdrop⟩ := span_digits hdigits.2 hrest
    have hread := reads_takeWhile Char.isDigit (d :: ds ++ rest)
    rw [htake, hdrop] at hread
    rw [List.cons_append, List.head?_cons]
    split
    · rename_i hnone
      exact absurd hnone (Option.some_ne_none d)
    · rename_i hsome
      exact absurd hsome hzero
    · rename_i c _ hsome
      obtain rfl : d = c := Option.some.inj hsome
      rw [hd]
      exact hread

lemma reads_number {negative : Bool} {n : Nat} {i : Int} (h : IsWhole digits)
    (hrest : EndsNumber rest) (hvalue : gather 0 digits = (n, [])) (hi : integer? negative n = some i) :
    Reads number (signText negative ++ (digits ++ rest)) (.int i) rest := by
  refine (reads_peek _).bind ?_
  rw [head_signText h.isDigits]
  refine .signed negative ?_
  refine (reads_wholeDigits h hrest.digits).bind ?_
  rw [hvalue]
  refine (reads_peek rest).bind ?_
  rw [beq_false_of_ne hrest.point]
  refine (Reads.pure [] rest).bind ?_
  refine (reads_peek rest).bind ?_
  have hwhole : (false || !([] : List Char).isEmpty) = false := rfl
  rw [hrest.mark, if_neg Bool.false_ne_true, hwhole, if_neg Bool.false_ne_true, hi]
  exact .pure (Number.int i) rest

lemma isInt64_iff (i : Int) :
    isInt64 i = true ↔ -9223372036854775808 ≤ i ∧ i < 9223372036854775808 := by
  rw [isInt64, Bool.and_eq_true, decide_eq_true_eq, decide_eq_true_eq]
  rfl

lemma integer?_sign {i : Int} (h : isInt64 i = true) :
    integer? (decide (i < 0)) i.natAbs = some i := by
  rw [isInt64_iff] at h
  unfold integer?
  by_cases hneg : i < 0
  · have hsize : i.natAbs ≠ 0 && i.natAbs ≤ Nat.pow 2 63 := by
      have hpow : Nat.pow 2 63 = 9223372036854775808 := rfl
      rw [hpow, Bool.and_eq_true, decide_eq_true_eq, decide_eq_true_eq]
      omega
    rw [decide_eq_true hneg, if_neg (by decide), if_pos hsize, Option.some_inj]
    omega
  · rw [decide_eq_false hneg, if_pos (by decide), Option.some_inj]
    omega

lemma isSpace_of_isDigit {c : Char} (h : c.isDigit = true) : isSpace c = false := by
  simp only [isSpace, Bool.or_eq_false_iff, decide_eq_false_iff_not]
  refine ⟨⟨⟨?_, ?_⟩, ?_⟩, ?_⟩ <;> rintro rfl <;> exact absurd h (by decide)

lemma exists_numberStart (negative : Bool) (h : IsDigits digits) :
    ∃ c cs, signText negative ++ (digits ++ rest) = c :: cs ∧ isSpace c = false ∧
      (c = '-' ∨ c.isDigit = true) := by
  cases negative with
  | true => exact ⟨'-', _, rfl, by decide, .inl rfl⟩
  | false =>
    obtain ⟨d, ds, rfl, hd⟩ := h.exists_cons
    exact ⟨d, _, rfl, isSpace_of_isDigit hd, .inr hd⟩

lemma startsNumber {c : Char} (hc : c = '-' ∨ c.isDigit = true) : (c != '-' && !c.isDigit) = false := by
  obtain rfl | hc := hc
  · rfl
  · rw [hc, Bool.not_true, Bool.and_false]

lemma reads_integer {i : Int} {holds : Int → Bool} (kind : String) (h : isInt64 i = true)
    (hholds : holds i = true) (hrest : EndsNumber rest) :
    Reads (integer kind holds) ((toString i).toList ++ rest) i rest := by
  have hgather : gather 0 (Nat.toDigits 10 i.natAbs) = (i.natAbs, []) := by
    have hsize : i.natAbs < Nat.pow 2 64 := by
      have hpow : Nat.pow 2 64 = 18446744073709551616 := rfl
      rw [isInt64_iff] at h
      omega
    have hvalue : Nat.ofDigitChars 10 (Nat.toDigits 10 i.natAbs) 0 = i.natAbs :=
      Nat.ofDigitChars_ten_toDigits
    rw [gather_eq (by rwa [hvalue]), hvalue]
  have hnumber := reads_number (isWhole_toDigits i.natAbs) hrest hgather (integer?_sign h)
  rw [toList_toString, List.append_assoc]
  have hfirst : ∃ c cs, signText (decide (i < 0)) ++ (Nat.toDigits 10 i.natAbs ++ rest) = c :: cs ∧
      isSpace c = false ∧ (c = '-' ∨ c.isDigit = true) :=
    exists_numberStart (decide (i < 0)) (isDigits_toDigits i.natAbs)
  obtain ⟨c, cs, htext, hspace, hc⟩ := hfirst
  rw [htext] at hnumber ⊢
  refine Reads.located ((reads_first hspace cs).bind ?_)
  rw [startsNumber hc]
  refine hnumber.bind ?_
  dsimp only
  rw [if_pos hholds]
  exact .pure i rest

end Integers

section Skipping

variable {digits rest : List Char}

inductive IsFraction : List Char → Prop
  | none : IsFraction []
  | point {digits : List Char} (h : IsDigits digits) : IsFraction ('.' :: digits)

inductive IsExponent : List Char → Prop
  | none : IsExponent []
  | marked {mark : Char} {sign digits : List Char} (hmark : isExponentMark (some mark) = true)
      (hsign : sign = [] ∨ sign = ['+'] ∨ sign = ['-']) (h : IsDigits digits) :
    IsExponent (mark :: (sign ++ digits))

inductive IsNumberText : List Char → Prop
  | mk (negative : Bool) {whole fraction exponent : List Char} (hwhole : IsWhole whole)
      (hfraction : IsFraction fraction) (hexponent : IsExponent exponent) :
    IsNumberText (signText negative ++ (whole ++ (fraction ++ exponent)))

lemma reads_wantDigit (h : IsDigits digits) (rest : List Char) :
    Reads wantDigit (digits ++ rest) () (digits ++ rest) := by
  obtain ⟨d, ds, rfl, hd⟩ := h.exists_cons
  refine (reads_peek _).bind ?_
  rw [List.cons_append, List.head?_cons]
  dsimp only
  rw [hd]
  exact .pure () _

lemma reads_skipDigits (h : IsDigits digits) (hrest : EndsDigits rest) :
    Reads skipDigits (digits ++ rest) () rest := by
  have hread := reads_takeWhile Char.isDigit (digits ++ rest)
  rw [(span_digits h.2 hrest).1, (span_digits h.2 hrest).2] at hread
  exact hread.bind (.pure () rest)

lemma isExponentMark_iff {c : Char} : isExponentMark (some c) = true ↔ c = 'e' ∨ c = 'E' := by
  rw [isExponentMark, Bool.or_eq_true, beq_iff_eq, beq_iff_eq, Option.some_inj, Option.some_inj]

lemma IsExponent.ends {exponent : List Char} (h : IsExponent exponent) (hrest : EndsNumber rest) :
    EndsDigits (exponent ++ rest) ∧ (exponent ++ rest).head? ≠ some '.' := by
  cases h with
  | none => exact ⟨hrest.digits, hrest.point⟩
  | marked hmark =>
    obtain rfl | rfl := isExponentMark_iff.mp hmark
    · exact ⟨fun c hc => by obtain rfl := Option.some.inj hc; rfl, by simp⟩
    · exact ⟨fun c hc => by obtain rfl := Option.some.inj hc; rfl, by simp⟩

lemma IsFraction.ends {fraction : List Char} (h : IsFraction fraction) (hrest : EndsDigits rest) :
    EndsDigits (fraction ++ rest) := by
  cases h with
  | none => exact hrest
  | point => exact fun c hc => by obtain rfl := Option.some.inj hc; rfl

lemma reads_exponentPart {exponent : List Char} (h : IsExponent exponent) (hrest : EndsNumber rest) :
    Reads (do
      if isExponentMark (← peek) then
        skip
        let sign ← peek
        if sign == some '+' || sign == some '-' then skip
        wantDigit
        skipDigits) (exponent ++ rest) () rest := by
  refine (reads_peek _).bind ?_
  cases h with
  | none =>
    rw [List.nil_append, hrest.mark, if_neg Bool.false_ne_true]
    exact .pure () rest
  | @marked mark sign digits hmark hsign hdigits =>
    have hskip : Reads (wantDigit >>= fun _ => skipDigits) (digits ++ rest) () rest :=
      (reads_wantDigit hdigits rest).bind (reads_skipDigits hdigits hrest.digits)
    rw [List.cons_append, List.head?_cons, hmark, if_pos rfl, List.append_assoc]
    refine (reads_skip mark _).bind ((reads_peek _).bind ?_)
    obtain rfl | rfl | rfl := hsign
    · obtain ⟨d, ds, rfl, hd⟩ := hdigits.exists_cons
      have hsigned : (some d == some '+' || some d == some '-') = false := by
        rw [Bool.or_eq_false_iff]
        constructor <;> refine beq_false_of_ne fun h => ?_ <;> obtain rfl := Option.some.inj h <;>
          exact absurd hd (by decide)
      rw [List.nil_append, List.cons_append, List.head?_cons, hsigned]
      exact hskip
    · exact (reads_skip '+' _).bind hskip
    · exact (reads_skip '-' _).bind hskip

lemma Reads.whole {whole text : List Char} {f : Unit → Reader Unit} (h : IsWhole whole)
    (hrest : EndsDigits rest) (hf : Reads (f ()) rest () text) :
    Reads (if ((whole ++ rest).head? == some '0') = true then
        skip >>= fun _ => peek >>= fun c =>
          if (c.map Char.isDigit).getD false = true then failAhead .number >>= f else f ()
      else skipDigits >>= f) (whole ++ rest) () text := by
  obtain rfl | ⟨hdigits, hzero⟩ := h
  · refine (reads_skip '0' rest).bind ((reads_peek rest).bind ?_)
    rw [not_isDigit_head hrest]
    exact hf
  · rw [List.head?_append_of_ne_nil _ hdigits.1, beq_false_of_ne hzero, if_neg Bool.false_ne_true]
    exact (reads_skipDigits hdigits hrest).bind hf

lemma reads_skipNumber {text : List Char} (h : IsNumberText text) (hrest : EndsNumber rest) :
    Reads skipNumber (text ++ rest) () rest := by
  cases h with | @mk negative whole fraction exponent hwhole hfraction hexponent =>
  obtain ⟨hdigits, hpoint⟩ := hexponent.ends hrest
  have hends := hfraction.ends hdigits
  rw [List.append_assoc, List.append_assoc, List.append_assoc]
  refine (reads_peek _).bind ?_
  rw [head_signText hwhole.isDigits]
  refine .signed negative ((reads_wantDigit hwhole.isDigits _).bind ?_)
  refine (reads_peek _).bind (.whole hwhole hends ?_)
  have hskip := reads_exponentPart hexponent hrest
  refine (reads_peek _).bind ?_
  cases hfraction with
  | none =>
    rw [List.nil_append, beq_false_of_ne hpoint, if_neg Bool.false_ne_true]
    exact hskip
  | @point digits hpoints =>
    obtain ⟨d, ds, rfl, hd⟩ := hpoints.exists_cons
    rw [List.cons_append, List.head?_cons, beq_self_eq_true, if_pos rfl]
    refine (reads_skip '.' _).bind ((reads_peek _).bind ?_)
    rw [List.cons_append, List.head?_cons]
    dsimp only
    rw [hd]
    exact (reads_skipDigits hpoints hdigits).bind hskip

end Skipping

end RowFence.Json
