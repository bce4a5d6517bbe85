import RowFence.Policy
import RowFence.Proofs.Text.Blank
import RowFence.Sql.Literal

/-! The table that a reference names: what remains of its last part once quotes are left out and all
up to the last period is cut off, in small letters. Of a plain name that is the last part itself,
whichever way it is quoted. -/

namespace RowFence

namespace Sql

/-- Names are compared without regard to ASCII letter case and to the blanks around them. -/
def foldName (s : String) : String := String.ofList ((Text.trimChars s.toList).map Char.toLower)

def Ident.folded (i : Ident) : String := foldName i.value

def Name.folded (n : Name) : List String := n.map Ident.folded

/-- A name without periods and quotes in it, quoted or not. -/
def isPlainName (i : Ident) : Bool :=
  i.value.toList.all (fun c => c != '.' && !TableName.isQuote c) && i.quote.all TableName.isQuote

def Name.isPlain (n : Name) : Bool := !n.isEmpty && n.all isPlainName

end Sql

namespace TableName

open Text Sql

lemma isQuote_toLower (c : Char) : isQuote c.toLower = isQuote c := by
  simp (disch := decide) only [isQuote, toLower_eq_iff]

lemma toLower_bne_period (c : Char) : (c.toLower != '.') = (c != '.') :=
  toLower_bne (by decide) (by decide) c

lemma afterLastPeriod_append_period (pre cs : List Char) (h : '.' ∉ cs) :
    afterLastPeriod (pre ++ '.' :: cs) = cs := by
  unfold afterLastPeriod
  rw [List.reverse_append, List.reverse_cons, List.append_assoc, List.takeWhile_append_of_pos]
  · simp
  · simp only [List.mem_reverse, bne_iff_ne, ne_eq]
    exact fun c hc hp => h (hp ▸ hc)

lemma afterLastPeriod_of_notMem (cs : List Char) (h : '.' ∉ cs) : afterLastPeriod cs = cs := by
  unfold afterLastPeriod
  rw [List.takeWhile_eq_self_iff.mpr, List.reverse_reverse]
  simp only [List.mem_reverse, bne_iff_ne, ne_eq]
  exact fun c hc hp => h (hp ▸ hc)

/-- A text with a period in it has a last one. -/
lemma exists_eq_append_period {cs : List Char} (h : '.' ∈ cs) :
    ∃ pre post, '.' ∉ post ∧ cs = pre ++ '.' :: post := by
  obtain ⟨post, pre, hsplit, hpost⟩ := List.eq_append_cons_of_mem (List.mem_reverse.mpr h)
  rw [List.reverse_eq_iff, List.reverse_append, List.reverse_cons, List.append_assoc] at hsplit
  exact ⟨pre.reverse, post.reverse, mt List.mem_reverse.mp hpost, hsplit⟩

lemma afterLastPeriod_append (pre cs : List Char) :
    afterLastPeriod (pre ++ '.' :: cs) = afterLastPeriod cs := by
  by_cases h : '.' ∈ cs
  · obtain ⟨pre', post, hpost, rfl⟩ := exists_eq_append_period h
    rw [← List.cons_append, ← List.append_assoc, afterLastPeriod_append_period _ _ hpost,
      afterLastPeriod_append_period _ _ hpost]
  · rw [afterLastPeriod_append_period _ _ h, afterLastPeriod_of_notMem _ h]

lemma not_mem_afterLastPeriod (cs : List Char) : '.' ∉ afterLastPeriod cs := by
  intro h
  have hp := List.mem_takeWhile_imp (List.mem_reverse.mp h)
  exact absurd hp (by decide)

lemma mem_of_mem_afterLastPeriod {c : Char} {cs : List Char} (h : c ∈ afterLastPeriod cs) :
    c ∈ cs :=
  List.mem_reverse.mp ((List.takeWhile_sublist _).mem (List.mem_reverse.mp h))

lemma blank_ne_period {w : Char} (h : isBlank w = true) : w ≠ '.' := by
  rintro rfl
  exact absurd h (by decide)

lemma trimChars_afterLastPeriod_trimChars (cs : List Char) :
    trimChars (afterLastPeriod (trimChars cs)) = trimChars (afterLastPeriod cs) := by
  obtain ⟨ws, ws', hws, hws', hcs⟩ := exists_eq_append_trimChars cs
  have hp : '.' ∉ ws := fun h => blank_ne_period (hws _ h) rfl
  have hp' : '.' ∉ ws' := fun h => blank_ne_period (hws' _ h) rfl
  by_cases hdot : '.' ∈ trimChars cs
  · -- The last period is inside, so that only the blanks at the end are behind it.
    obtain ⟨pre, post, hpost, hsplit⟩ := exists_eq_append_period hdot
    have hend : '.' ∉ post ++ ws' := by
      rw [List.mem_append, not_or]
      exact ⟨hpost, hp'⟩
    have hcs' : cs = (ws ++ pre) ++ '.' :: (post ++ ws') := by
      rw [hcs, hsplit]
      simp only [List.append_assoc, List.cons_append]
    rw [hcs', afterLastPeriod_append_period _ _ hend, trimChars_append_blank _ _ hws', ← hcs', hsplit,
      afterLastPeriod_append_period _ _ hpost]
  · have hdot' : '.' ∉ cs := by
      rw [hcs]
      simp only [List.mem_append, not_or]
      exact ⟨hp, hdot, hp'⟩
    rw [afterLastPeriod_of_notMem _ hdot, afterLastPeriod_of_notMem _ hdot', trimChars_trimChars]

lemma normal_eq (cs : List Char) :
    normal cs = (trimChars (afterLastPeriod (cs.filter (!isQuote ·)))).map Char.toLower := by
  rw [normal, trimChars_afterLastPeriod_trimChars]

lemma exists_intercalate_concat (part : List Char) (parts : List (List Char)) (last : List Char) :
    ∃ pre, ['.'].intercalate (part :: (parts ++ [last])) = pre ++ '.' :: last := by
  induction parts generalizing part with
  | nil =>
    refine ⟨part, ?_⟩
    rw [List.nil_append, List.intercalate_cons_cons, List.intercalate_singleton, List.append_assoc,
      List.singleton_append]
  | cons next parts ih =>
    obtain ⟨pre, hpre⟩ := ih next
    refine ⟨part ++ ['.'] ++ pre, ?_⟩
    rw [List.cons_append, List.intercalate_cons_cons, hpre]
    simp only [List.append_assoc]

lemma normal_intercalate (parts : List (List Char)) (last : List Char) :
    normal (['.'].intercalate (parts ++ [last])) = normal last := by
  rw [normal_eq, normal_eq]
  cases parts with
  | nil => rw [List.nil_append, List.intercalate_singleton]
  | cons part parts =>
    obtain ⟨pre, hpre⟩ := exists_intercalate_concat part parts last
    rw [List.cons_append, hpre, List.filter_append, List.filter_cons_of_pos (by decide),
      afterLastPeriod_append]

/-- However a reference is qualified, it names what its last part names. -/
lemma ofReference_concat (parts : List String) (last : String) :
    ofReference (".".intercalate (parts ++ [last])) = ofReference last := by
  have hsep : ".".toList = ['.'] := by decide
  rw [ofReference, String.toList_intercalate, hsep, List.map_append, List.map_cons, List.map_nil,
    normal_intercalate, ofReference]

section Bare

/-- A character that a name may have in look-ups. -/
def isBare (c : Char) : Bool := c != '.' && !isQuote c

lemma isBare_of_mem_normal {c : Char} {cs : List Char} (h : c ∈ normal cs) : isBare c = true := by
  rw [normal_eq, List.mem_map] at h
  obtain ⟨d, hd, rfl⟩ := h
  have hafter := mem_of_mem_trimChars hd
  have hquote : isQuote d = false := by
    simpa using (List.mem_filter.mp (mem_of_mem_afterLastPeriod hafter)).2
  have hperiod : d ≠ '.' := fun hd => not_mem_afterLastPeriod _ (hd ▸ hafter)
  simp [isBare, toLower_bne_period, hperiod, isQuote_toLower, hquote]

lemma isBare_toLower (c : Char) : isBare c.toLower = isBare c := by
  rw [isBare, isBare, toLower_bne_period, isQuote_toLower]

lemma not_isBlank_of_not_isBare {c : Char} (h : isBare c = false) : isBlank c = false := by
  by_cases hperiod : c = '.'
  · subst hperiod
    decide
  · have hquote : isQuote c = true := by simpa [isBare, hperiod] using h
    simp only [isQuote, Bool.or_eq_true, decide_eq_true_eq] at hquote
    rcases hquote with (((rfl | rfl) | rfl) | rfl) | rfl <;> decide

lemma mem_trimChars {c : Char} {cs : List Char} (hc : c ∈ cs) (hblank : isBlank c = false) :
    c ∈ trimChars cs := by
  obtain ⟨ws, ws', hws, hws', hcs⟩ := exists_eq_append_trimChars cs
  have hblank' : ¬ isBlank c = true := by simp [hblank]
  rw [hcs] at hc
  rcases List.mem_append.mp hc with hc | hc
  · exact absurd (hws c hc) hblank'
  · exact (List.mem_append.mp hc).resolve_right fun hc => hblank' (hws' c hc)

/-- A text names itself, without regard to letter case and the blanks around it, just in case there
is no period and no quote in it. -/
lemma ofReference_eq_folded_iff (s : String) :
    ofReference s = ⟨foldName s⟩ ↔ s.toList.all isBare = true := by
  constructor
  · intro h
    have hnormal : normal s.toList = (trimChars s.toList).map Char.toLower :=
      String.ofList_inj.mp (TableName.mk.inj h)
    rw [List.all_eq_true]
    intro c hc
    by_contra hbare
    rw [Bool.not_eq_true] at hbare
    have hkept : c.toLower ∈ normal s.toList := by
      rw [hnormal]
      exact List.mem_map_of_mem (mem_trimChars hc (not_isBlank_of_not_isBare hbare))
    exact absurd ((isBare_toLower c).symm.trans (isBare_of_mem_normal hkept)) (by simp [hbare])
  · intro h
    rw [List.all_eq_true] at h
    have hfilter : s.toList.filter (!isQuote ·) = s.toList :=
      List.filter_eq_self.mpr fun c hc => (Bool.and_eq_true_iff.mp (h c hc)).2
    have hperiod : '.' ∉ s.toList := fun hdot => absurd (h '.' hdot) (by decide)
    rw [ofReference, normal_eq, hfilter, afterLastPeriod_of_notMem _ hperiod, foldName]

end Bare

section Spelling

lemma filter_doubleQuotes {quote : Char} (hquote : isQuote quote = true) (last : Char)
    (cs : List Char) :
    (doubleQuotes quote last cs).filter (!isQuote ·) = cs.filter (!isQuote ·) := by
  have hskip (cs : List Char) : (quote :: cs).filter (!isQuote ·) = cs.filter (!isQuote ·) :=
    List.filter_cons_of_neg (by simp [hquote])
  fun_induction doubleQuotes quote last cs with
  | case1 => rfl
  | case2 last c h =>
    obtain rfl : c = quote := of_decide_eq_true (Bool.and_eq_true_iff.mp h).1
    exact hskip [c]
  | case3 => rfl
  | case4 d rest ih => rw [hskip, hskip, ih]
  | case5 last rest h ih => rw [hskip, hskip, hskip, hskip, ih]
  | case6 last d rest hlast hd ih => rw [hskip, hskip, hskip, ih]
  | case7 last c d rest hc ih =>
    rw [← List.singleton_append, List.filter_append, ih, ← List.filter_append,
      List.singleton_append]

lemma filter_spelling {i : Ident} (hquote : i.quote.all isQuote = true) :
    i.spelling.toList.filter (!isQuote ·) = i.value.toList.filter (!isQuote ·) := by
  unfold Ident.spelling
  split
  · rfl
  · have hopen : "[".toList.filter (!isQuote ·) = [] := by decide
    have hclose : "]".toList.filter (!isQuote ·) = [] := by decide
    rw [String.toList_append, String.toList_append, List.filter_append, List.filter_append, hopen,
      hclose, List.nil_append, List.append_nil]
  · rename_i quote _ hsome
    have hq : isQuote quote = true := by rwa [hsome] at hquote
    have hsign : quote.toString.toList.filter (!isQuote ·) = [] := by
      simp [Char.toString, String.toList_singleton, hq]
    rw [quoted, String.toList_append, String.toList_append, String.toList_ofList, List.filter_append,
      List.filter_append, hsign, filter_doubleQuotes hq, List.nil_append, List.append_nil]

/-- However a name is qualified and quoted, it names what its last identifier names. -/
lemma ofReference_spelling_concat (parts : Name) {last : Ident}
    (hquote : last.quote.all isQuote = true) :
    ofReference (Name.spelling (parts ++ [last])) = ofReference last.value := by
  rw [Name.spelling, List.map_append, List.map_cons, List.map_nil, ofReference_concat, ofReference,
    normal_eq, filter_spelling hquote, ← normal_eq, ofReference]

end Spelling

lemma foldName_foldName (s : String) : foldName (foldName s) = foldName s := by
  have hlower : Char.toLower ∘ Char.toLower = Char.toLower := funext toLower_toLower
  rw [foldName, foldName, String.toList_ofList, trimChars_map_toLower, trimChars_trimChars,
    List.map_map, hlower]

lemma isBare_folded {s : String} (h : s.toList.all isBare = true) :
    (foldName s).toList.all isBare = true := by
  rw [List.all_eq_true] at h ⊢
  rw [foldName, String.toList_ofList]
  intro c hc
  obtain ⟨d, hd, rfl⟩ := List.mem_map.mp hc
  rw [isBare_toLower]
  exact h d (mem_of_mem_trimChars hd)

section Plain

variable {i : Ident} (h : isPlainName i = true)

include h

lemma isBare_value : i.value.toList.all isBare = true := (Bool.and_eq_true_iff.mp h).1

lemma ofReference_value : ofReference i.value = ⟨i.folded⟩ :=
  (ofReference_eq_folded_iff i.value).mpr (isBare_value h)

lemma ofReference_spelling (parts : Name) :
    ofReference (Name.spelling (parts ++ [i])) = ⟨i.folded⟩ :=
  (ofReference_spelling_concat parts (Bool.and_eq_true_iff.mp h).2).trans (ofReference_value h)

lemma ofReference_folded (parts : Name) :
    ofReference (".".intercalate (Name.folded (parts ++ [i]))) = ⟨i.folded⟩ := by
  have hbare := isBare_folded (isBare_value h)
  rw [Name.folded, List.map_append, List.map_cons, List.map_nil, ofReference_concat, Ident.folded,
    (ofReference_eq_folded_iff (foldName i.value)).mpr hbare, foldName_foldName]

end Plain

end TableName

open Sql in
lemma Policy.excludesTable_folded (p : Policy) {n : Name} (h : n.isPlain = true) :
    p.excludesTable (".".intercalate (Name.folded n)) = p.excludesTable (Name.spelling n) := by
  rw [Name.isPlain, Bool.and_eq_true, List.all_eq_true] at h
  obtain ⟨hne, hall⟩ := h
  obtain rfl | ⟨parts, last, rfl⟩ := List.eq_nil_or_concat n
  · exact absurd hne (by decide)
  · rw [List.concat_eq_append] at hall ⊢
    have hlast := hall last (List.mem_append_right _ (List.mem_singleton_self last))
    rw [excludesTable, excludesTable, TableName.ofReference_folded hlast,
      TableName.ofReference_spelling hlast]

end RowFence
