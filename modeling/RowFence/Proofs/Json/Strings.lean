import RowFence.Policy.ConfigJson
import RowFence.Proofs.Json.Reading

/-! Strings of JSON: any string is read back from the text that is written for it, and any text of a
string, whatever its escapes, is read over to its end. -/

namespace RowFence.Json

open Reader

section Escapes

variable {digits rest rest' : List Char}

lemma length_le_utf8Size (cs : List Char) (n : Nat) :
    n + cs.length ≤ cs.foldl (· + ·.utf8Size) n := by
  induction cs generalizing n with
  | nil => exact Nat.le_refl n
  | cons c cs ih =>
    have hc := c.utf8Size_pos
    have hcs := ih (n + c.utf8Size)
    rw [List.length_cons, List.foldl_cons]
    omega

lemma reads_fourDigits {n : Nat} (hlength : digits.length = 4) (hn : hexNumber? digits = some n)
    (rest : List Char) : Reads fourDigits (digits ++ rest) n rest := by
  intro place
  refine ⟨placeAfter 4 place (digits ++ rest), ?_⟩
  have hsize : ¬ (digits ++ rest).foldl (· + ·.utf8Size) 0 < 4 := by
    have := length_le_utf8Size (digits ++ rest) 0
    rw [List.length_append] at this
    omega
  have htake : (digits ++ rest).take 4 = digits := by rw [← hlength, List.take_left]
  have hdrop : (digits ++ rest).drop 4 = rest := by rw [← hlength, List.drop_left]
  rw [fourDigits, run_bind]
  change (ite _ _ _ : Reader Nat) _ = _
  rw [if_neg hsize, htake, hn]
  change (Except.ok n, Cursor.mk ((digits ++ rest).drop 4) _) = _
  rw [hdrop]

lemma reads_escape_short {c d : Char} (h : simpleEscape? c = some d) (rest : List Char) :
    Reads escape (c :: rest) d rest := by
  refine (reads_peek _).bind ?_
  rw [List.head?_cons]
  split
  · rename_i hnone
    exact absurd hnone (Option.some_ne_none c)
  · rename_i hsome
    obtain rfl := Option.some.inj hsome
    have hu : simpleEscape? 'u' = none := rfl
    exact absurd (hu.symm.trans h) nofun
  · rename_i hsome
    obtain rfl := Option.some.inj hsome
    rw [h]
    exact (reads_skip c rest).bind (.pure d rest)

lemma reads_escape_control {n : Nat} (hlength : digits.length = 4) (hn : hexNumber? digits = some n)
    (hcontrol : n < 32) (rest : List Char) :
    Reads escape ('u' :: (digits ++ rest)) (.ofNat n) rest := by
  refine (reads_peek _).bind ((reads_skip 'u' _).bind ((reads_fourDigits hlength hn rest).bind ?_))
  have hsecond : (decide (0xDC00 ≤ n) && decide (n ≤ 0xDFFF)) = false := by
    rw [decide_eq_false (by omega), Bool.false_and]
  have hfirst : (decide (n < 0xD800) || decide (0xDBFF < n)) = true := by
    rw [decide_eq_true (by omega), Bool.true_or]
  rw [hsecond, if_neg Bool.false_ne_true]
  dsimp only
  rw [if_pos hfirst]
  exact .pure _ rest

variable {c : Char} {cs : List Char} {bound : Nat}

lemma reads_characters_plain (hquote : c ≠ '"') (hslash : c ≠ '\\') (hcontrol : ¬ c < ' ')
    (h : Reads (characters bound) rest cs rest') :
    Reads (characters (bound + 1)) (c :: rest) (c :: cs) rest' := by
  refine (reads_peek _).bind ?_
  rw [List.head?_cons]
  split
  · rename_i hnone
    exact absurd hnone (Option.some_ne_none c)
  · rename_i hsome
    exact absurd (Option.some.inj hsome) hquote
  · rename_i hsome
    exact absurd (Option.some.inj hsome) hslash
  · rename_i hsome
    obtain rfl := Option.some.inj hsome
    refine (reads_skip c rest).bind ?_
    rw [if_neg hcontrol]
    exact h.bind (.pure (c :: cs) rest')

lemma reads_characters_escape {text : List Char} (hescape : Reads escape text c rest)
    (h : Reads (characters bound) rest cs rest') :
    Reads (characters (bound + 1)) ('\\' :: text) (c :: cs) rest' :=
  (reads_peek _).bind ((reads_skip '\\' text).bind (hescape.bind (h.bind (.pure (c :: cs) rest'))))

lemma hexNumber?_hexDigits {n : Nat} (h : n < 32) :
    hexNumber? ['0', '0', hexDigit (n / 16), hexDigit (n % 16)] = some n := by
  revert n
  decide

lemma toNat_lt_of_lt_space (h : c < ' ') : c.toNat < 32 := h

lemma reads_characters_escapedChar (h : Reads (characters bound) rest cs rest') (c : Char) :
    Reads (characters (bound + 1)) (escapedChar c ++ rest) (c :: cs) rest' := by
  rw [escapedChar.eq_def]
  split
  case h_8 hquote hslash _ _ _ _ _ =>
    by_cases hcontrol : c < ' '
    · have hn := toNat_lt_of_lt_space hcontrol
      have hescape := reads_escape_control rfl (hexNumber?_hexDigits hn) hn rest
      rw [Char.ofNat_toNat] at hescape
      rw [if_pos hcontrol]
      exact reads_characters_escape hescape h
    · rw [if_neg hcontrol]
      exact reads_characters_plain hquote hslash hcontrol h
  all_goals exact reads_characters_escape (reads_escape_short rfl rest) h

lemma reads_characters (cs rest : List Char) (h : cs.length < bound) :
    Reads (characters bound) (cs.flatMap escapedChar ++ '"' :: rest) cs rest := by
  induction cs generalizing bound with
  | nil =>
    obtain ⟨bound, rfl⟩ := Nat.exists_eq_add_one.mpr (Nat.zero_lt_of_lt h)
    exact (reads_peek _).bind ((reads_skip '"' rest).bind (.pure [] rest))
  | cons c cs ih =>
    obtain ⟨bound, rfl⟩ := Nat.exists_eq_add_one.mpr (Nat.zero_lt_of_lt h)
    rw [List.flatMap_cons, List.append_assoc]
    exact reads_characters_escapedChar (ih (Nat.lt_of_succ_lt_succ h)) c

lemma length_le_flatMap_escapedChar (cs : List Char) :
    cs.length ≤ (cs.flatMap escapedChar).length := by
  induction cs with
  | nil => exact Nat.zero_le _
  | cons c cs ih =>
    have hc : 1 ≤ (escapedChar c).length := by
      rw [escapedChar.eq_def]
      split
      case h_8 => split <;> simp
      all_goals simp
    rw [List.flatMap_cons, List.length_cons, List.length_append]
    omega

lemma reads_quoted (s : String) (rest : List Char) :
    Reads quoted (writtenString s ++ rest) s rest := by
  have htext : writtenString s ++ rest = '"' :: (s.toList.flatMap escapedChar ++ '"' :: rest) := by
    rw [writtenString, List.append_assoc]
    rfl
  have hlength : s.toList.length < (s.toList.flatMap escapedChar ++ '"' :: rest).length + 1 := by
    have := length_le_flatMap_escapedChar s.toList
    rw [List.length_append]
    omega
  rw [htext]
  refine (reads_skip '"' _).bind ((reads_bound _).bind ((reads_characters _ rest hlength).bind ?_))
  rw [String.ofList_toList]
  exact .pure s rest

end Escapes

section Skipping

variable {rest rest' unit : List Char} {bound : Nat}

/-- The text of one character of a string: the character itself, or an escape for it. -/
inductive IsUnit : List Char → Prop
  | plain {c : Char} (hquote : c ≠ '"') (hslash : c ≠ '\\') (hcontrol : ¬ c < ' ') : IsUnit [c]
  | short {c : Char} (h : (simpleEscape? c).isSome) : IsUnit ['\\', c]
  | long {digits : List Char} (hlength : digits.length = 4) (h : (hexNumber? digits).isSome) :
    IsUnit ('\\' :: 'u' :: digits)

def IsStringText (text : List Char) : Prop :=
  ∃ units : List (List Char), (∀ unit ∈ units, IsUnit unit) ∧ text = '"' :: (units.flatten ++ ['"'])

lemma isUnit_escapedChar (c : Char) : IsUnit (escapedChar c) := by
  rw [escapedChar.eq_def]
  split
  case h_8 hquote hslash _ _ _ _ _ =>
    split
    · rename_i hcontrol
      exact .long rfl (by rw [hexNumber?_hexDigits (toNat_lt_of_lt_space hcontrol)]; rfl)
    · rename_i hcontrol
      exact .plain hquote hslash hcontrol
  all_goals exact .short rfl

lemma isStringText_writtenString (s : String) : IsStringText (writtenString s) := by
  refine ⟨s.toList.map escapedChar, fun unit hunit => ?_, ?_⟩
  · obtain ⟨c, -, rfl⟩ := List.mem_map.mp hunit
    exact isUnit_escapedChar c
  · rw [writtenString, List.flatMap_def]
    rfl

lemma reads_skipEscape_short {c : Char} (h : (simpleEscape? c).isSome) (rest : List Char) :
    Reads skipEscape (c :: rest) () rest := by
  refine (reads_peek _).bind ?_
  rw [List.head?_cons]
  split
  · rename_i hnone
    exact absurd hnone (Option.some_ne_none c)
  · rename_i hsome
    obtain rfl := Option.some.inj hsome
    exact absurd h (by decide)
  · rename_i hsome
    obtain rfl := Option.some.inj hsome
    rw [if_pos h]
    exact reads_skip c rest

lemma reads_skipEscape_long {digits : List Char} (hlength : digits.length = 4)
    (h : (hexNumber? digits).isSome) (rest : List Char) :
    Reads skipEscape ('u' :: (digits ++ rest)) () rest := by
  obtain ⟨n, hn⟩ := Option.isSome_iff_exists.mp h
  exact (reads_peek _).bind ((reads_skip 'u' _).bind
    ((reads_fourDigits hlength hn rest).bind (.pure () rest)))

lemma reads_skipCharacters_unit (hunit : IsUnit unit) (h : Reads (skipCharacters bound) rest () rest') :
    Reads (skipCharacters (bound + 1)) (unit ++ rest) () rest' := by
  refine (reads_peek _).bind ?_
  cases hunit with
  | @plain c hquote hslash hcontrol =>
    rw [List.singleton_append, List.head?_cons]
    split
    · rename_i hnone
      exact absurd hnone (Option.some_ne_none c)
    · rename_i hsome
      exact absurd (Option.some.inj hsome) hquote
    · rename_i hsome
      exact absurd (Option.some.inj hsome) hslash
    · rename_i hsome
      obtain rfl := Option.some.inj hsome
      rw [if_neg hcontrol]
      exact (reads_skip c rest).bind h
  | @short c hshort =>
    exact (reads_skip '\\' _).bind ((reads_skipEscape_short hshort rest).bind h)
  | @long digits hlength hhex =>
    exact (reads_skip '\\' _).bind ((reads_skipEscape_long hlength hhex rest).bind h)

lemma reads_skipCharacters {units : List (List Char)} (hunits : ∀ unit ∈ units, IsUnit unit)
    (h : units.length < bound) (rest : List Char) :
    Reads (skipCharacters bound) (units.flatten ++ '"' :: rest) () rest := by
  induction units generalizing bound with
  | nil =>
    obtain ⟨bound, rfl⟩ := Nat.exists_eq_add_one.mpr (Nat.zero_lt_of_lt h)
    exact (reads_peek _).bind (reads_skip '"' rest)
  | cons unit units ih =>
    obtain ⟨bound, rfl⟩ := Nat.exists_eq_add_one.mpr (Nat.zero_lt_of_lt h)
    rw [List.forall_mem_cons] at hunits
    rw [List.flatten_cons, List.append_assoc]
    exact reads_skipCharacters_unit hunits.1 (ih hunits.2 (Nat.lt_of_succ_lt_succ h))

lemma length_le_flatten {units : List (List Char)} (hunits : ∀ unit ∈ units, IsUnit unit) :
    units.length ≤ units.flatten.length := by
  induction units with
  | nil => exact Nat.zero_le _
  | cons unit units ih =>
    rw [List.forall_mem_cons] at hunits
    have hunit : 1 ≤ unit.length := by cases hunits.1 <;> simp
    have hrest := ih hunits.2
    rw [List.flatten_cons, List.length_cons, List.length_append]
    omega

lemma reads_skipQuoted {text : List Char} (h : IsStringText text) (rest : List Char) :
    Reads skipQuoted (text ++ rest) () rest := by
  obtain ⟨units, hunits, rfl⟩ := h
  have hlength : units.length < (units.flatten ++ '"' :: rest).length + 1 := by
    have := length_le_flatten hunits
    rw [List.length_append]
    omega
  rw [List.cons_append, List.append_assoc]
  exact (reads_skip '"' _).bind ((reads_bound _).bind (reads_skipCharacters hunits hlength rest))

end Skipping

end RowFence.Json
