import Mathlib.Logic.Relation
import RowFence.Proofs.Policy.TableName

/-! The names under which tables are looked up are canonical: two references have the same one just
in case they can be turned into each other by quotes, letter case, and blanks and schemas around
them. -/

namespace RowFence

namespace TableName

open Text Sql

/-- No quote, period or capital letter is in the name, and there is no blank at its ends. -/
structure IsCanonical (name : String) : Prop where
  quote : ∀ c ∈ name.toList, isQuote c = false
  period : '.' ∉ name.toList
  upper : ∀ c ∈ name.toList, c.isUpper = false
  first : ∀ c ∈ name.toList.head?, isBlank c = false
  last : ∀ c ∈ name.toList.getLast?, isBlank c = false

/-- The second reference is the first one with one more quote somewhere in it, in other letter
case, between blanks, or behind a text and a period. -/
inductive IsVariant : String → String → Prop
  | quote (before after : String) {q : Char} (h : isQuote q = true) :
    IsVariant (before ++ after) (before ++ q.toString ++ after)
  | letterCase {s t : String} (h : s.toList.map Char.toLower = t.toList.map Char.toLower) :
    IsVariant s t
  | blanks {before after : String} (hbefore : isBlankText before = true)
    (hafter : isBlankText after = true) (s : String) : IsVariant s (before ++ s ++ after)
  | schema (path s : String) : IsVariant s (path ++ "." ++ s)

section Shape

lemma trimChars_normal (cs : List Char) : trimChars (normal cs) = normal cs := by
  rw [normal, trimChars_map_toLower, trimChars_trimChars]

lemma isUpper_of_mem_normal {c : Char} {cs : List Char} (h : c ∈ normal cs) : c.isUpper = false := by
  rw [normal, List.mem_map] at h
  obtain ⟨d, -, rfl⟩ := h
  exact (toLower_eq_self_iff d.toLower).mp (toLower_toLower d)

lemma isCanonical_ofReference (s : String) : IsCanonical (ofReference s).text := by
  have hchars : (ofReference s).text.toList = normal s.toList := String.toList_ofList
  have hbare (c : Char) (hc : c ∈ normal s.toList) : c ≠ '.' ∧ isQuote c = false := by
    simpa [isBare] using isBare_of_mem_normal hc
  obtain ⟨hfirst, hlast⟩ := (trimChars_eq_self_iff _).mp (trimChars_normal s.toList)
  constructor
  case quote =>
    rw [hchars]
    exact fun c hc => (hbare c hc).2
  case period =>
    rw [hchars]
    exact fun hdot => (hbare '.' hdot).1 rfl
  case upper =>
    rw [hchars]
    exact fun c hc => isUpper_of_mem_normal hc
  case first =>
    rw [hchars]
    exact hfirst
  case last =>
    rw [hchars]
    exact hlast

lemma foldName_of_isCanonical {name : String} (h : IsCanonical name) : foldName name = name := by
  have hlower : name.toList.map Char.toLower = name.toList :=
    (List.map_congr_left fun c hc => (toLower_eq_self_iff c).mpr (h.upper c hc)).trans
      (List.map_id' _)
  rw [foldName, (trimChars_eq_self_iff _).mpr ⟨h.first, h.last⟩, hlower, String.ofList_toList]

/-- The canonical names are those that name themselves. -/
lemma text_ofReference_eq_self_iff (name : String) :
    (ofReference name).text = name ↔ IsCanonical name := by
  constructor
  · intro h
    rw [← h]
    exact isCanonical_ofReference name
  · intro h
    have hbare : name.toList.all isBare = true := by
      rw [List.all_eq_true]
      intro c hc
      have hperiod : c ≠ '.' := fun hdot => h.period (hdot ▸ hc)
      simp [isBare, hperiod, h.quote c hc]
    rw [(ofReference_eq_folded_iff name).mpr hbare]
    exact foldName_of_isCanonical h

end Shape

section Invariance

lemma filter_map_toLower (cs : List Char) :
    (cs.map Char.toLower).filter (!isQuote ·) = (cs.filter (!isQuote ·)).map Char.toLower := by
  have hquote : (!isQuote ·) ∘ Char.toLower = (!isQuote ·) :=
    funext fun c => congrArg not (isQuote_toLower c)
  rw [List.filter_map, hquote]

lemma afterLastPeriod_map_toLower (cs : List Char) :
    afterLastPeriod (cs.map Char.toLower) = (afterLastPeriod cs).map Char.toLower := by
  have hperiod : (· != '.') ∘ Char.toLower = (· != '.') := funext toLower_bne_period
  rw [afterLastPeriod, afterLastPeriod, ← List.map_reverse, List.takeWhile_map, hperiod,
    List.map_reverse]

lemma normal_map_toLower (cs : List Char) : normal (cs.map Char.toLower) = normal cs := by
  have hlower : Char.toLower ∘ Char.toLower = Char.toLower := funext toLower_toLower
  rw [normal_eq, normal_eq, filter_map_toLower, afterLastPeriod_map_toLower, trimChars_map_toLower,
    List.map_map, hlower]

lemma normal_blanks {ws ws' : List Char} (hws : ∀ w ∈ ws, isBlank w = true)
    (hws' : ∀ w ∈ ws', isBlank w = true) (cs : List Char) :
    normal (ws ++ cs ++ ws') = normal cs := by
  rw [normal, normal, List.filter_append, List.filter_append,
    trimChars_append_blank _ _ fun w hw => hws' w (List.mem_filter.mp hw).1,
    trimChars_blank_append _ _ fun w hw => hws w (List.mem_filter.mp hw).1]

lemma ofReference_eq_of_isVariant {s t : String} (h : IsVariant s t) :
    ofReference s = ofReference t := by
  cases h with
  | quote before after hq => simp [ofReference, normal_eq, Char.toString, hq]
  | letterCase h => rw [ofReference, ofReference, ← normal_map_toLower, h, normal_map_toLower]
  | blanks hbefore hafter =>
    rw [isBlankText, List.all_eq_true] at hbefore hafter
    rw [ofReference, ofReference, String.toList_append, String.toList_append,
      normal_blanks hbefore hafter]
  | schema path => exact (ofReference_concat [path] s).symm

/-- However often a reference is changed, and back, it names the same table. -/
lemma ofReference_eq_of_eqvGen {s t : String} (h : Relation.EqvGen IsVariant s t) :
    ofReference s = ofReference t := by
  induction h with
  | rel s t h => exact ofReference_eq_of_isVariant h
  | refl s => rfl
  | symm s t _ ih => exact ih.symm
  | trans s t u _ _ ih ih' => exact ih.trans ih'

end Invariance

section Completeness

open Relation

/-- The quotes of a text can be put in one by one, from the first to the last. -/
lemma eqvGen_filter (pre cs : List Char) :
    EqvGen IsVariant (String.ofList (pre ++ cs.filter (!isQuote ·))) (String.ofList (pre ++ cs)) := by
  induction cs generalizing pre with
  | nil => exact .refl _
  | cons c cs ih =>
    by_cases hc : isQuote c = true
    · have hquote := IsVariant.quote (String.ofList pre) (String.ofList cs) hc
      rw [List.filter_cons_of_neg (by simp [hc])]
      refine .trans _ _ _ (ih pre) (.rel _ _ ?_)
      simpa only [Char.toString, String.singleton_eq_ofList, ← String.ofList_append,
        List.append_assoc, List.singleton_append] using hquote
    · have hrest := ih (pre ++ [c])
      rw [List.filter_cons_of_pos (by simp [hc])]
      simpa only [List.append_assoc, List.singleton_append] using hrest

lemma eqvGen_afterLastPeriod (cs : List Char) :
    EqvGen IsVariant (String.ofList (afterLastPeriod cs)) (String.ofList cs) := by
  by_cases h : '.' ∈ cs
  · obtain ⟨pre, post, hpost, rfl⟩ := exists_eq_append_period h
    rw [afterLastPeriod_append_period _ _ hpost]
    have hperiod : "." = String.ofList ['.'] := rfl
    have hschema := IsVariant.schema (String.ofList pre) (String.ofList post)
    rw [hperiod, ← String.ofList_append, ← String.ofList_append, List.append_assoc,
      List.singleton_append] at hschema
    exact .rel _ _ hschema
  · rw [afterLastPeriod_of_notMem _ h]
    exact .refl _

lemma eqvGen_trimChars (cs : List Char) :
    EqvGen IsVariant (String.ofList (trimChars cs)) (String.ofList cs) := by
  obtain ⟨ws, ws', hws, hws', hcs⟩ := exists_eq_append_trimChars cs
  have hblank (ws : List Char) (h : ∀ w ∈ ws, isBlank w = true) :
      isBlankText (String.ofList ws) = true := by
    rw [isBlankText, String.toList_ofList, List.all_eq_true]
    exact h
  have hblanks := IsVariant.blanks (hblank ws hws) (hblank ws' hws') (String.ofList (trimChars cs))
  rw [← String.ofList_append, ← String.ofList_append, List.append_assoc, ← hcs] at hblanks
  exact .rel _ _ hblanks

lemma eqvGen_map_toLower (cs : List Char) :
    EqvGen IsVariant (String.ofList (cs.map Char.toLower)) (String.ofList cs) := by
  refine .rel _ _ (.letterCase ?_)
  simp [toLower_toLower]

/-- Every reference is a variant of the name under which its table is looked up. -/
lemma eqvGen_ofReference (s : String) : EqvGen IsVariant (ofReference s).text s := by
  have hquotes := eqvGen_filter [] s.toList
  rw [List.nil_append, List.nil_append, String.ofList_toList] at hquotes
  rw [ofReference, normal_eq]
  exact .trans _ _ _ (eqvGen_map_toLower _) (.trans _ _ _ (eqvGen_trimChars _)
    (.trans _ _ _ (eqvGen_afterLastPeriod _) hquotes))

end Completeness

/-- The name that a reference is looked up by is in canonical form and names itself. It stays the
same whatever quotes are put into the reference, in whichever letter case it is written, and
whichever blanks and schema are put around it; and references of one name differ in nothing
else. -/
theorem ofReference_canonical (s : String) :
    IsCanonical (ofReference s).text ∧ ofReference (ofReference s).text = ofReference s ∧
      ∀ t, ofReference t = ofReference s ↔ Relation.EqvGen IsVariant s t := by
  refine ⟨isCanonical_ofReference s, ?_, fun t => ⟨fun h => ?_, fun h => ?_⟩⟩
  · exact congrArg TableName.mk ((text_ofReference_eq_self_iff _).mpr (isCanonical_ofReference s))
  · have hs := eqvGen_ofReference s
    have ht := eqvGen_ofReference t
    rw [h] at ht
    exact .trans _ _ _ (.symm _ _ hs) ht
  · exact (ofReference_eq_of_eqvGen h).symm

/-- Periods count inside quotes too, and blanks go even where quotes hide them. -/
example : (ofReference " 'My.Shop'.[ Old.Orders\" ]").text = "orders" := by decide +kernel

end TableName

end RowFence
