import Mathlib.Data.List.Basic
import Mathlib.Data.Nat.Find
import Mathlib.Tactic.Lemma
import RowFence.Filter
import RowFence.Proofs.Text.Blank

/-! Screening for keywords looks at whole words: a filter is refused for the first of its maximal runs
of word characters that is a forbidden keyword up to letter case. -/

namespace RowFence.Filter

open Sql Text

/-- A folding of letter case that treats ASCII as the simple case folding of Unicode does. The long s
and the Kelvin sign are the only characters beyond ASCII that fold into it. -/
structure CaseFolding where
  fold : Char → Char
  fold_ascii : ∀ c, c.toNat < 128 → fold c = c.toLower
  fold_longS : fold '\u017f' = 's'
  fold_kelvinSign : fold '\u212a' = 'k'
  le_fold : ∀ c, 128 ≤ c.toNat → c ≠ '\u017f' → c ≠ '\u212a' → 128 ≤ (fold c).toNat

def CaseFolding.forbids (F : CaseFolding) (run : List Char) : Prop :=
  ∃ word ∈ forbiddenKeywords, run.map F.fold = word.toList.map F.fold

/-- A part of a text that consists of word characters and has none next to it. -/
structure IsRun (text before run after : List Char) : Prop where
  parts : text = before ++ (run ++ after)
  ne_nil : run ≠ []
  isWord : ∀ c ∈ run, isWordChar c = true
  begins : ∀ c ∈ before.getLast?, isWordChar c = false
  ends : ∀ c ∈ after.head?, isWordChar c = false

section Folding

lemma toNat_toLower_lt {c : Char} (h : c.toNat < 128) : c.toLower.toNat < 128 := by
  rw [toNat_toLower]
  split <;> omega

lemma isWordChar_kelvinSign : isWordChar '\u212a' = true := by
  -- As an array the table takes the kernel long to search.
  have hletter : inRanges letterRanges '\u212a' = true := by
    rw [inRanges, ← Array.any_toList]
    decide +kernel
  rw [isWordChar, if_neg (by decide), isLetter, if_neg (by decide), hletter, Bool.true_or]

/-- The folding of the deny lists is one of these. -/
def CaseFolding.usual : CaseFolding where
  fold := folded
  fold_ascii c h := by
    have hs : c ≠ '\u017f' := fun hc => absurd (hc ▸ h) (by decide)
    have hk : c ≠ '\u212a' := fun hc => absurd (hc ▸ h) (by decide)
    rw [folded, if_neg hs, if_neg hk]
  fold_longS := rfl
  fold_kelvinSign := rfl
  le_fold c h hs hk := by
    rw [folded, if_neg hs, if_neg hk, toLower_eq_self (by omega)]
    exact h

namespace CaseFolding

variable (F G : CaseFolding)

lemma fold_lt {c : Char} (h : c.toNat < 128) : (F.fold c).toNat < 128 := by
  rw [F.fold_ascii c h]
  exact toNat_toLower_lt h

lemma fold_eq_of_fold_eq {k c : Char} (hk : k.toNat < 128) (h : F.fold c = F.fold k) :
    G.fold c = G.fold k := by
  have hlower := F.fold_ascii k hk
  rw [G.fold_ascii k hk]
  by_cases hs : c = '\u017f'
  · subst hs
    rw [← hlower, ← h, F.fold_longS, G.fold_longS]
  by_cases hkelvin : c = '\u212a'
  · subst hkelvin
    rw [← hlower, ← h, F.fold_kelvinSign, G.fold_kelvinSign]
  by_cases hc : c.toNat < 128
  · rw [G.fold_ascii c hc, ← F.fold_ascii c hc, h, hlower]
  · have hhigh := F.le_fold c (by omega) hs hkelvin
    have hlow := F.fold_lt hk
    rw [h] at hhigh
    omega

lemma isWordChar_of_fold_eq {k c : Char} (hk : k.toNat < 128) (hword : isWordChar k = true)
    (h : F.fold c = F.fold k) : isWordChar c = true := by
  by_cases hs : c = '\u017f'
  · subst hs
    decide +kernel
  by_cases hkelvin : c = '\u212a'
  · subst hkelvin
    exact isWordChar_kelvinSign
  have hc : c.toNat < 128 := by
    by_contra hc
    have hhigh := F.le_fold c (by omega) hs hkelvin
    have hlow := F.fold_lt hk
    rw [h] at hhigh
    omega
  rw [F.fold_ascii c hc, F.fold_ascii k hk] at h
  have hlower : ∀ n < 128, isWordChar (Char.ofNat n).toLower = isWordChar (Char.ofNat n) := by
    decide +kernel
  have hlowerc := hlower c.toNat hc
  have hlowerk := hlower k.toNat hk
  rw [Char.ofNat_toNat] at hlowerc hlowerk
  rw [← hlowerc, h, hlowerk, hword]

lemma map_fold_eq_of_map_fold_eq {word run : List Char} (hword : ∀ k ∈ word, k.toNat < 128)
    (h : run.map F.fold = word.map F.fold) : run.map G.fold = word.map G.fold := by
  induction word generalizing run with
  | nil => rw [List.map_eq_nil_iff.mp h]
  | cons k word ih =>
    obtain ⟨hk, hrest⟩ := List.forall_mem_cons.mp hword
    obtain ⟨c, run, rfl, hc, hrun⟩ := List.map_eq_cons_iff.mp h
    rw [List.map_cons, List.map_cons, F.fold_eq_of_fold_eq G hk hc, ih hrest hrun]

end CaseFolding

lemma keyword_facts : ∀ word ∈ forbiddenKeywords,
    word.toList ≠ [] ∧ ∀ k ∈ word.toList, k.toNat < 128 ∧ isWordChar k = true := by
  have hall : forbiddenKeywords.all (fun word => !word.toList.isEmpty &&
      word.toList.all fun k => k.toNat < 128 && isWordChar k) = true := by
    decide +kernel
  intro word hword
  have hfacts := List.all_eq_true.mp hall word hword
  rw [Bool.and_eq_true, Bool.not_eq_true', List.isEmpty_eq_false_iff, List.all_eq_true] at hfacts
  refine ⟨hfacts.1, fun k hk => ?_⟩
  have hk := hfacts.2 k hk
  rwa [Bool.and_eq_true, decide_eq_true_eq] at hk

namespace CaseFolding.forbids

variable {F : CaseFolding} {run : List Char}

lemma of_forbids (h : F.forbids run) (G : CaseFolding) : G.forbids run := by
  obtain ⟨word, hword, hrun⟩ := h
  have hascii : ∀ k ∈ word.toList, k.toNat < 128 := fun k hk => ((keyword_facts word hword).2 k hk).1
  exact ⟨word, hword, F.map_fold_eq_of_map_fold_eq G hascii hrun⟩

lemma ne_nil (h : F.forbids run) : run ≠ [] := by
  obtain ⟨word, hword, hrun⟩ := h
  intro hnil
  rw [hnil, List.map_nil, eq_comm, List.map_eq_nil_iff] at hrun
  exact (keyword_facts word hword).1 hrun

lemma isWord (h : F.forbids run) : ∀ c ∈ run, isWordChar c = true := by
  obtain ⟨word, hword, hrun⟩ := h
  intro c hc
  have hmem : F.fold c ∈ word.toList.map F.fold := hrun ▸ List.mem_map_of_mem hc
  obtain ⟨k, hk, hfold⟩ := List.mem_map.mp hmem
  obtain ⟨hascii, hkword⟩ := (keyword_facts word hword).2 k hk
  exact F.isWordChar_of_fold_eq hascii hkword hfold.symm

end CaseFolding.forbids

end Folding

section Scanning

lemma startsWith_iff (word text : List Char) : startsWith word text = true ↔
    ∃ run rest, text = run ++ rest ∧ run.map folded = word.map folded := by
  rw [startsWith, List.isPrefixOf_iff_prefix]
  constructor
  · rintro ⟨rest, hrest⟩
    obtain ⟨run, others, htext, hrun, -⟩ := List.map_eq_append_iff.mp hrest.symm
    exact ⟨run, others, htext, hrun⟩
  · rintro ⟨run, rest, rfl, hrun⟩
    exact ⟨rest.map folded, by rw [List.map_append, hrun]⟩

lemma takeWhile_isWordChar {run after : List Char} (hrun : ∀ c ∈ run, isWordChar c = true)
    (hafter : startsWithWordChar after = false) : (run ++ after).takeWhile isWordChar = run := by
  rw [List.takeWhile_append_of_pos hrun]
  cases after with
  | nil => exact List.append_nil run
  | cons c after =>
    have hc : isWordChar c = false := hafter
    rw [List.takeWhile_cons_of_neg (Bool.eq_false_iff.mp hc), List.append_nil]

lemma keywordAt?_eq_some_iff (cs found : List Char) : keywordAt? cs = some found ↔
    CaseFolding.usual.forbids found ∧ ∃ after, cs = found ++ after ∧
      startsWithWordChar after = false := by
  have hsound : ∀ found, keywordAt? cs = some found → CaseFolding.usual.forbids found ∧
      ∃ after, cs = found ++ after ∧ startsWithWordChar after = false := by
    intro found h
    obtain ⟨word, hword, hfound⟩ := List.exists_of_findSome?_eq_some h
    obtain ⟨keyword, hkeyword, rfl⟩ := List.mem_map.mp hword
    split at hfound
    · rename_i hstarts
      rw [Bool.and_eq_true, Bool.not_eq_true'] at hstarts
      obtain ⟨hstarts, hends⟩ := hstarts
      obtain ⟨run, rest, rfl, hrun⟩ := (startsWith_iff _ _).mp hstarts
      have hlength : run.length = keyword.toList.length := by
        rw [← List.length_map folded, hrun, List.length_map]
      rw [← hlength, List.take_left] at hfound
      rw [← hlength, List.drop_left] at hends
      obtain rfl := Option.some.inj hfound
      exact ⟨⟨keyword, hkeyword, hrun⟩, rest, rfl, hends⟩
    · exact nomatch hfound
  refine ⟨hsound found, ?_⟩
  rintro ⟨hforbids, after, rfl, hafter⟩
  obtain ⟨keyword, hkeyword, hrun⟩ := hforbids
  have hsome : (keywordAt? (found ++ after)).isSome = true := by
    rw [keywordAt?, List.findSome?_isSome_iff]
    refine ⟨keyword.toList, List.mem_map_of_mem hkeyword, ?_⟩
    have hlength : keyword.toList.length = found.length := by
      rw [← List.length_map CaseFolding.usual.fold, ← hrun, List.length_map]
    have hstarts : startsWith keyword.toList (found ++ after) = true :=
      (startsWith_iff _ _).mpr ⟨found, after, rfl, hrun⟩
    rw [hstarts, hlength, List.drop_left, hafter]
    rfl
  obtain ⟨found', hfound'⟩ := Option.isSome_iff_exists.mp hsome
  obtain ⟨hforbids', after', heq, hafter'⟩ := hsound found' hfound'
  have htake := congrArg (List.takeWhile isWordChar) heq
  have hforbids : CaseFolding.usual.forbids found := ⟨keyword, hkeyword, hrun⟩
  rw [takeWhile_isWordChar hforbids.isWord hafter,
    takeWhile_isWordChar hforbids'.isWord hafter'] at htake
  rw [hfound', htake]

/-- Whether a word goes on behind a text. -/
def endsInside : (inside : Bool) → List Char → Bool
  | inside, [] => inside
  | _, c :: cs => endsInside (isWordChar c) cs

/-- A keyword that stands in a text, with the number of characters before it. -/
def OccursAt (inside : Bool) (cs : List Char) (n : Nat) (run : List Char) : Prop :=
  CaseFolding.usual.forbids run ∧ ∃ before after, cs = before ++ (run ++ after) ∧
    before.length = n ∧ endsInside inside before = false ∧ startsWithWordChar after = false

variable {inside : Bool} {c : Char} {cs run : List Char} {n : Nat}

lemma occursAt_zero_iff :
    OccursAt inside cs 0 run ↔ inside = false ∧ keywordAt? cs = some run := by
  rw [keywordAt?_eq_some_iff]
  constructor
  · rintro ⟨hforbids, before, after, hparts, hlength, hends, hafter⟩
    obtain rfl := List.length_eq_zero_iff.mp hlength
    exact ⟨hends, hforbids, after, hparts, hafter⟩
  · rintro ⟨hinside, hforbids, after, hparts, hafter⟩
    exact ⟨hforbids, [], after, hparts, rfl, hinside, hafter⟩

lemma occursAt_succ_iff :
    OccursAt inside (c :: cs) (n + 1) run ↔ OccursAt (isWordChar c) cs n run := by
  constructor
  · rintro ⟨hforbids, _ | ⟨c', before⟩, after, hparts, hlength, hends, hafter⟩
    · exact nomatch hlength
    · obtain ⟨rfl, rfl⟩ := List.cons.inj hparts
      exact ⟨hforbids, before, after, rfl, Nat.succ.inj hlength, hends, hafter⟩
  · rintro ⟨hforbids, before, after, rfl, rfl, hends, hafter⟩
    exact ⟨hforbids, c :: before, after, rfl, rfl, hends, hafter⟩

lemma not_occursAt_nil : ¬ OccursAt inside [] n run := by
  rintro ⟨hforbids, before, after, hparts, -⟩
  have hempty := (List.append_eq_nil_iff.mp hparts.symm).2
  exact hforbids.ne_nil (List.append_eq_nil_iff.mp hempty).1

lemma findKeyword?_eq_some_iff : findKeyword? inside cs = some run ↔
    ∃ n, OccursAt inside cs n run ∧ ∀ m run', OccursAt inside cs m run' → n ≤ m := by
  induction cs generalizing inside with
  | nil => exact ⟨nofun, fun ⟨_, hn, _⟩ => absurd hn not_occursAt_nil⟩
  | cons c cs ih =>
    have hzero : ∀ run', OccursAt inside (c :: cs) 0 run' ↔
        (if inside then none else keywordAt? (c :: cs)) = some run' := by
      intro run'
      rw [occursAt_zero_iff]
      cases inside <;> simp
    rw [findKeyword?]
    cases hfound : (if inside then none else keywordAt? (c :: cs)) with
    | some found =>
      rw [hfound] at hzero
      have hfirst : OccursAt inside (c :: cs) 0 found := (hzero found).mpr rfl
      constructor
      · intro h
        obtain rfl := Option.some.inj h
        exact ⟨0, hfirst, fun m _ _ => Nat.zero_le m⟩
      · rintro ⟨n, hn, hleast⟩
        obtain rfl := Nat.le_zero.mp (hleast 0 found hfirst)
        exact (hzero run).mp hn
    | none =>
      rw [hfound] at hzero
      have hnone : ∀ run', ¬ OccursAt inside (c :: cs) 0 run' := fun run' h =>
        nomatch (hzero run').mp h
      refine ih.trans ⟨?_, ?_⟩
      · rintro ⟨n, hn, hleast⟩
        refine ⟨n + 1, occursAt_succ_iff.mpr hn, fun m run' hm => ?_⟩
        cases m with
        | zero => exact absurd hm (hnone run')
        | succ m => exact Nat.succ_le_succ (hleast m run' (occursAt_succ_iff.mp hm))
      · rintro ⟨n, hn, hleast⟩
        cases n with
        | zero => exact absurd hn (hnone run)
        | succ n =>
          refine ⟨n, occursAt_succ_iff.mp hn, fun m run' hm => ?_⟩
          exact Nat.le_of_succ_le_succ (hleast (m + 1) run' (occursAt_succ_iff.mpr hm))

lemma endsInside_iff (before : List Char) : endsInside inside before = false ↔
    (before = [] → inside = false) ∧ ∀ c ∈ before.getLast?, isWordChar c = false := by
  induction before generalizing inside with
  | nil => simp [endsInside]
  | cons c before ih =>
    rw [endsInside, ih]
    cases before with
    | nil => simp
    | cons c' before => simp [List.getLast?_cons_cons]

lemma startsWithWordChar_iff (after : List Char) : startsWithWordChar after = false ↔
    ∀ c ∈ after.head?, isWordChar c = false := by
  cases after with
  | nil => simp [startsWithWordChar]
  | cons c after => simp [startsWithWordChar]

lemma occursAt_iff_isRun (F : CaseFolding) : OccursAt false cs n run ↔
    F.forbids run ∧ ∃ before after, IsRun cs before run after ∧ before.length = n := by
  constructor
  · rintro ⟨hforbids, before, after, hparts, hlength, hends, hafter⟩
    exact ⟨hforbids.of_forbids F, before, after, ⟨hparts, hforbids.ne_nil, hforbids.isWord,
      ((endsInside_iff before).mp hends).2, (startsWithWordChar_iff after).mp hafter⟩, hlength⟩
  · rintro ⟨hforbids, before, after, hrun, hlength⟩
    exact ⟨hforbids.of_forbids _, before, after, hrun.parts, hlength,
      (endsInside_iff before).mpr ⟨fun _ => rfl, hrun.begins⟩,
      (startsWithWordChar_iff after).mpr hrun.ends⟩

lemma exists_findKeyword?_iff (F : CaseFolding) (cs : List Char) :
    (∃ run, findKeyword? false cs = some run) ↔
      ∃ before run after, IsRun cs before run after ∧ F.forbids run := by
  classical
  constructor
  · rintro ⟨run, hfound⟩
    obtain ⟨n, hn, -⟩ := findKeyword?_eq_some_iff.mp hfound
    obtain ⟨hforbids, before, after, hrun, -⟩ := (occursAt_iff_isRun F).mp hn
    exact ⟨before, run, after, hrun, hforbids⟩
  · rintro ⟨before, run, after, hrun, hforbids⟩
    have hsome : ∃ n run, OccursAt false cs n run :=
      ⟨before.length, run, (occursAt_iff_isRun F).mpr ⟨hforbids, before, after, hrun, rfl⟩⟩
    obtain ⟨first, hfirst⟩ := Nat.find_spec hsome
    exact ⟨first, findKeyword?_eq_some_iff.mpr
      ⟨_, hfirst, fun m run' hm => Nat.find_min' hsome ⟨run', hm⟩⟩⟩

end Scanning

lemma rejection?_eq_forbiddenKeyword_iff (d : Dialect) (filter keyword : String) :
    rejection? d filter = some (.forbiddenKeyword keyword) ↔
      isDangerous (trimChars filter.toList) = false ∧
        ∃ run, findKeyword? false (trimChars filter.toList) = some run ∧
          keyword = upperCase (.ofList run) := by
  unfold rejection?
  dsimp only
  cases htext : trimChars filter.toList with
  | nil => simp [findKeyword?]
  | cons c cs =>
    rw [List.isEmpty_cons, if_neg Bool.false_ne_true]
    cases isDangerous (c :: cs) with
    | true => simp
    | false =>
      rw [if_neg Bool.false_ne_true]
      cases findKeyword? false (c :: cs) with
      | some run => simp [eq_comm]
      | none =>
        cases condition d (.ofList (c :: cs)) with
        | error e => simp
        | ok e => simp

/-- A filter is refused for a keyword exactly if it shows no sign of an injection and a maximal run of
word characters in it is a forbidden keyword up to letter case. The keyword that is reported is the
first such run, in capitals. -/
theorem rejects_first_keyword (F : CaseFolding) (d : Dialect) (filter : String) :
    let text := trimChars filter.toList
    ((∃ keyword, rejection? d filter = some (.forbiddenKeyword keyword)) ↔
      isDangerous text = false ∧ ∃ before run after, IsRun text before run after ∧ F.forbids run) ∧
    ∀ keyword, rejection? d filter = some (.forbiddenKeyword keyword) ↔
      isDangerous text = false ∧ ∃ before run after, IsRun text before run after ∧ F.forbids run ∧
        keyword = upperCase (.ofList run) ∧
        ∀ before' run' after', IsRun text before' run' after' → F.forbids run' →
          before.length ≤ before'.length := by
  intro text
  refine ⟨?_, fun keyword => ?_⟩
  · rw [← exists_findKeyword?_iff F text]
    simp only [rejection?_eq_forbiddenKeyword_iff]
    constructor
    · rintro ⟨keyword, hsafe, run, hfound, -⟩
      exact ⟨hsafe, run, hfound⟩
    · rintro ⟨hsafe, run, hfound⟩
      exact ⟨_, hsafe, run, hfound, rfl⟩
  · rw [rejection?_eq_forbiddenKeyword_iff]
    refine and_congr_right fun _ => ⟨?_, ?_⟩
    · rintro ⟨run, hfound, hkeyword⟩
      obtain ⟨n, hn, hleast⟩ := findKeyword?_eq_some_iff.mp hfound
      obtain ⟨hforbids, before, after, hrun, rfl⟩ := (occursAt_iff_isRun F).mp hn
      refine ⟨before, run, after, hrun, hforbids, hkeyword,
        fun before' run' after' hrun' hforbids' => ?_⟩
      exact hleast _ run' ((occursAt_iff_isRun F).mpr ⟨hforbids', before', after', hrun', rfl⟩)
    · rintro ⟨before, run, after, hrun, hforbids, hkeyword, hleast⟩
      refine ⟨run, findKeyword?_eq_some_iff.mpr ⟨before.length, ?_, fun m run' hm => ?_⟩, hkeyword⟩
      · exact (occursAt_iff_isRun F).mpr ⟨hforbids, before, after, hrun, rfl⟩
      · obtain ⟨hforbids', before', after', hrun', rfl⟩ := (occursAt_iff_isRun F).mp hm
        exact hleast before' run' after' hrun' hforbids'

/-- Longer words do not count, and quotes hide nothing. -/
example : rejection? .mysql "created = 'executed' OR note = 'Execute'" =
    some (.forbiddenKeyword "EXECUTE") := by
  decide +kernel

end RowFence.Filter
