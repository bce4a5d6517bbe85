import RowFence.Proofs.Json.Numerals
import RowFence.Proofs.Json.Strings

/-! Objects whose fields are read by name. The fields may stand in any order, some of them may be left
out, and members of other names may stand between them. -/

namespace RowFence.Json

open Reader

section Scalars

variable {text rest : List Char}

/-- The text of a value that is no list and no object. -/
inductive IsScalarText : List Char → Prop
  | null : IsScalarText ['n', 'u', 'l', 'l']
  | true : IsScalarText ['t', 'r', 'u', 'e']
  | false : IsScalarText ['f', 'a', 'l', 's', 'e']
  | number {text : List Char} (h : IsNumberText text) : IsScalarText text
  | string {text : List Char} (h : IsStringText text) : IsScalarText text

lemma isScalarText_int (i : Int) : IsScalarText (Value.int i).written := by
  have hwhole := isWhole_toDigits i.natAbs
  have hnumber := IsNumberText.mk (decide (i < 0)) hwhole .none .none
  rw [List.append_nil, List.append_nil, ← toList_toString] at hnumber
  exact .number hnumber

lemma isScalarText_string (s : String) : IsScalarText (Value.string s).written :=
  .string (isStringText_writtenString s)

lemma IsNumberText.exists_start (h : IsNumberText text) :
    ∃ c cs, text = c :: cs ∧ isSpace c = false ∧ (c = '-' ∨ c.isDigit = true) := by
  cases h with | mk negative hwhole hfraction hexponent =>
  exact exists_numberStart negative hwhole.isDigits

lemma reads_skipStart (h : IsScalarText text) (hrest : EndsNumber rest) :
    Reads skipStart (text ++ rest) none rest := by
  cases h with
  | null =>
    exact (reads_first (by decide) _).bind ((reads_word ['n', 'u', 'l', 'l'] rest).bind (.pure none rest))
  | true =>
    exact (reads_first (by decide) _).bind ((reads_word ['t', 'r', 'u', 'e'] rest).bind (.pure none rest))
  | false =>
    exact (reads_first (by decide) _).bind
      ((reads_word ['f', 'a', 'l', 's', 'e'] rest).bind (.pure none rest))
  | string h =>
    have hskip := reads_skipQuoted h rest
    obtain ⟨units, -, rfl⟩ := h
    exact (reads_first (by decide) _).bind (hskip.bind (.pure none rest))
  | number h =>
    have hskip := reads_skipNumber h hrest
    obtain ⟨c, cs, rfl, hspace, hc⟩ := h.exists_start
    refine (reads_first hspace _).bind ?_
    split
    case h_7 =>
      rw [startsNumber hc]
      exact hskip.bind (.pure none rest)
    all_goals
      obtain hc | hc := hc
      · exact absurd hc (by decide)
      · exact absurd hc (by decide)

lemma reads_skipValue (h : IsScalarText text) (hrest : EndsNumber rest) :
    Reads skipValue (text ++ rest) () rest :=
  (reads_bound _).bind ((reads_skipStart h hrest).bind ((Reads.pure [] rest).bind (.pure () rest)))

end Scalars

section Values

variable {α : Type} {bound index : Nat}

lemma reads_bool (b : Bool) (rest : List Char) : Reads bool ((Value.bool b).written ++ rest) b rest := by
  cases b with
  | true =>
    exact .located ((reads_first (by decide) _).bind
      ((reads_word ['t', 'r', 'u', 'e'] rest).bind (.pure true rest)))
  | false =>
    exact .located ((reads_first (by decide) _).bind
      ((reads_word ['f', 'a', 'l', 's', 'e'] rest).bind (.pure false rest)))

lemma reads_blanks_written (s : String) (rest : List Char) :
    Reads blanks (writtenString s ++ rest) (some '"') (writtenString s ++ rest) :=
  reads_blanks_cons (by decide) _

lemma reads_first_written (s : String) (rest : List Char) :
    Reads first (writtenString s ++ rest) '"' (writtenString s ++ rest) :=
  reads_first (by decide) _

lemma reads_string (s : String) (rest : List Char) :
    Reads string (writtenString s ++ rest) s rest :=
  .located ((reads_first_written s rest).bind (reads_quoted s rest))

lemma reads_variant {choices : List (String × α)} {name : String} {a : α}
    (h : choices.lookup name = some a) (rest : List Char) :
    Reads (variant choices) (writtenString name ++ rest) a rest := by
  have hfirst := reads_first_written name rest
  refine hfirst.bind (.located (hfirst.bind ((reads_quoted name rest).bind ?_)))
  rw [h]
  exact .pure a rest

lemma reads_moreElements_first (s : String) (rest : List Char) :
    Reads (moreElements true) (writtenString s ++ rest) true (writtenString s ++ rest) :=
  (reads_blanks_written s rest).bind (.pure true _)

lemma reads_moreElements_next (s : String) (rest : List Char) :
    Reads (moreElements false) (',' :: (writtenString s ++ rest)) true (writtenString s ++ rest) :=
  (reads_blanks_cons (by decide) _).bind ((reads_skip ',' _).bind
    ((reads_blanks_written s rest).bind (.pure true _)))

lemma reads_moreElements_end (isFirst : Bool) (rest : List Char) :
    Reads (moreElements isFirst) (']' :: rest) false (']' :: rest) :=
  (reads_blanks_cons (by decide) rest).bind (.pure false _)

lemma reads_elements_cons {item : Reader α} {a : α} {as : List α} {text between rest : List Char}
    (hmore : Reads (moreElements (index == 0)) text true between) (hitem : Reads item between a rest)
    {after : List Char} (has : Reads (elements item bound (index + 1)) rest as after) :
    Reads (elements item (bound + 1) index) text (a :: as) after :=
  hmore.bind ((hitem.inside (.element index)).bind (has.bind (.pure (a :: as) after)))

lemma reads_elements_strings (ss : List String) (rest : List Char) (h : ss.length ≤ bound) :
    Reads (elements string bound (index + 1)) (writtenElements (ss.map .string) ++ rest) ss
      (']' :: rest) := by
  induction ss generalizing bound index with
  | nil =>
    cases bound with
    | zero => exact .pure [] _
    | succ bound => exact (reads_moreElements_end _ rest).bind (.pure [] _)
  | cons s ss ih =>
    obtain ⟨bound, rfl⟩ := Nat.exists_eq_add_one.mpr (Nat.zero_lt_of_lt h)
    rw [List.map_cons, writtenElements, List.append_assoc, List.cons_append]
    have hmore : Reads (moreElements (index + 1 == 0)) _ true _ :=
      reads_moreElements_next s (writtenElements (ss.map .string) ++ rest)
    exact reads_elements_cons hmore (reads_string s _) (ih (Nat.le_of_succ_le_succ h))

lemma length_le_writtenElements (vs : List Value) : vs.length < (writtenElements vs).length := by
  induction vs with
  | nil => exact Nat.one_pos
  | cons v vs ih =>
    rw [writtenElements, List.cons_append, List.length_cons, List.length_cons, List.length_append]
    omega

lemma reads_strings (ss : List String) (rest : List Char) :
    Reads (list string) ((Value.strings ss).written ++ rest) ss rest := by
  cases ss with
  | nil =>
    refine .located ((reads_first (by decide) _).bind ((reads_skip '[' _).bind ?_))
    refine Reads.enclosed ((reads_bound _).bind ?_) (reads_listEnd rest)
    exact (reads_moreElements_end _ rest).bind (.pure [] _)
  | cons s ss =>
    have htext : (Value.strings (s :: ss)).written ++ rest =
        '[' :: (writtenString s ++ (writtenElements (ss.map .string) ++ rest)) := by
      rw [Value.strings, List.map_cons, Value.written, List.append_assoc]
      rfl
    rw [htext]
    refine .located ((reads_first (by decide) _).bind ((reads_skip '[' _).bind ?_))
    refine Reads.enclosed ((reads_bound _).bind ?_) (reads_listEnd rest)
    have hmore : Reads (moreElements (0 == 0)) _ true _ :=
      reads_moreElements_first s (writtenElements (ss.map .string) ++ rest)
    refine reads_elements_cons hmore (reads_string s _) (reads_elements_strings ss rest ?_)
    have := length_le_writtenElements (ss.map .string)
    rw [List.length_map] at this
    simp only [List.length_append]
    omega

end Values

section Members

variable {σ : Type} {fields : List (Member σ)} {rest : List Char} {bound : Nat} {seen : List String}

structure Entry where
  name : String
  text : List Char
  deriving DecidableEq

def Entry.of (name : String) (v : Value) : Entry := ⟨name, v.written⟩

def entriesText : List Entry → List Char
  | [] => ['}']
  | e :: es => ',' :: (writtenString e.name ++ ':' :: (e.text ++ entriesText es))

def objectText : List Entry → List Char
  | [] => ['{', '}']
  | e :: es => '{' :: (writtenString e.name ++ ':' :: (e.text ++ entriesText es))

lemma writtenMembers_eq (ms : List (String × Value)) :
    writtenMembers ms = entriesText (ms.map fun m => .of m.1 m.2) := by
  induction ms with
  | nil => rfl
  | cons m ms ih =>
    rw [writtenMembers, ih, List.append_assoc]
    rfl

lemma written_object (ms : List (String × Value)) :
    (Value.object ms).written = objectText (ms.map fun m => .of m.1 m.2) := by
  cases ms with
  | nil => rfl
  | cons m ms =>
    rw [Value.written, writtenMembers_eq, List.append_assoc]
    rfl

/-- A record of these fields reads the member, which changes the record so, or reads over it. -/
inductive Fits (fields : List (Member σ)) (e : Entry) (change : σ → σ) : Prop
  | field {f : Member σ} (hf : fields.find? (·.name == e.name) = some f)
    (hread : ∀ (s : σ) (rest : List Char), EndsNumber rest →
      Reads (f.read s) (e.text ++ rest) (change s) rest)
  | other (hf : fields.find? (·.name == e.name) = none) (htext : IsScalarText e.text)
    (hchange : change = id)

lemma find?_name (hnodup : (fields.map (·.name)).Nodup) {f : Member σ} (hf : f ∈ fields) :
    fields.find? (·.name == f.name) = some f := by
  induction fields with
  | nil => cases hf
  | cons f' fs ih =>
    obtain ⟨hnew, hnodup⟩ := List.nodup_cons.mp hnodup
    obtain rfl | hf := List.mem_cons.mp hf
    · exact List.find?_cons_of_pos (beq_self_eq_true _)
    · have hother : f'.name ≠ f.name := by
        intro hsame
        exact hnew (List.mem_map.mpr ⟨f, hf, hsame.symm⟩)
      rw [List.find?_cons_of_neg (by simpa using hother)]
      exact ih hnodup hf

lemma reads_moreKeys_end (isFirst : Bool) (rest : List Char) :
    Reads (moreKeys isFirst) ('}' :: rest) false ('}' :: rest) :=
  (reads_blanks_cons (by decide) rest).bind (.pure false _)

lemma reads_moreKeys_first (name : String) (rest : List Char) :
    Reads (moreKeys true) (writtenString name ++ rest) true (writtenString name ++ rest) :=
  (reads_blanks_written name rest).bind (.pure true _)

lemma reads_moreKeys_next (name : String) (rest : List Char) :
    Reads (moreKeys false) (',' :: (writtenString name ++ rest)) true (writtenString name ++ rest) :=
  (reads_blanks_cons (by decide) _).bind ((reads_skip ',' _).bind
    ((reads_blanks_written name rest).bind (.pure true _)))

lemma endsNumber_entriesText (es : List Entry) (rest : List Char) :
    EndsNumber (entriesText es ++ rest) := by
  cases es with
  | nil => exact .cons rfl (by decide) rfl rest
  | cons e es => exact .cons rfl (by decide) rfl _

lemma reads_namedFields_cons {e : Entry} {change : σ → σ} {s s' : σ} {text after rest : List Char}
    (hmore : Reads (moreKeys seen.isEmpty) text true
      (writtenString e.name ++ ':' :: (e.text ++ after)))
    (hfits : Fits fields e change)
    (hseen : e.name ∈ seen → fields.find? (·.name == e.name) = none) (hafter : EndsNumber after)
    (h : Reads (namedFields fields bound (e.name :: seen) (change s)) after s' rest) :
    Reads (namedFields fields (bound + 1) seen s) text s' rest := by
  refine hmore.bind ((reads_quoted e.name _).bind ?_)
  cases hfits with
  | other hf htext hchange =>
    rw [hf]
    refine (reads_colon _).bind (((reads_skipValue htext hafter).inside _).bind ?_)
    rwa [hchange] at h
  | field hf hread =>
    have hnew : seen.contains e.name = false := by
      rw [Bool.eq_false_iff, ne_eq, List.contains_iff_mem]
      intro hmem
      exact nomatch hf.symm.trans (hseen hmem)
    rw [hf]
    dsimp only
    rw [hnew, if_neg Bool.false_ne_true]
    exact (reads_colon _).bind (((hread s after hafter).inside _).bind h)

lemma reads_namedFields_nil (hoptional : ∀ f ∈ fields, f.required = false) (bound : Nat)
    (seen : List String) (s : σ) (rest : List Char) :
    Reads (namedFields fields bound seen s) ('}' :: rest) s ('}' :: rest) := by
  cases bound with
  | zero => exact .pure s _
  | succ bound =>
    have hnone : (fields.find? fun f => f.required && !seen.contains f.name) = none := by
      rw [List.find?_eq_none]
      intro f hf
      rw [hoptional f hf, Bool.false_and]
      exact Bool.false_ne_true
    refine (reads_moreKeys_end _ rest).bind ?_
    rw [hnone]
    exact .pure s _

/-- No field is named twice. -/
def DistinctFields (fields : List (Member σ)) (es : List Entry) : Prop :=
  es.Pairwise fun e e' => e.name = e'.name → fields.find? (·.name == e.name) = none

lemma DistinctFields.perm {es es' : List Entry} (h : DistinctFields fields es) (hperm : es'.Perm es) :
    DistinctFields fields es' := by
  refine (hperm.pairwise_iff fun hxy hyx => ?_).mpr h
  rw [hyx]
  exact hxy hyx.symm

lemma DistinctFields.append {es es' : List Entry} (hes : (es.map (·.name)).Nodup)
    (hes' : ∀ e ∈ es', fields.find? (·.name == e.name) = none) : DistinctFields fields (es ++ es') := by
  have hdistinct : es.Pairwise fun e e' => e.name ≠ e'.name := List.pairwise_map.mp hes
  refine List.pairwise_append.mpr ⟨hdistinct.imp fun hne hsame => absurd hsame hne, ?_, ?_⟩
  · exact List.pairwise_of_forall_mem_list fun e he _ _ _ => hes' e he
  · intro e _ e' he' hsame
    rw [hsame]
    exact hes' e' he'

lemma reads_namedFields (hoptional : ∀ f ∈ fields, f.required = false) {change : Entry → σ → σ}
    {es : List Entry} (hfits : ∀ e ∈ es, Fits fields e (change e)) (hdistinct : DistinctFields fields es)
    (hseen : ∀ e ∈ es, e.name ∈ seen → fields.find? (·.name == e.name) = none)
    (hnonempty : seen.isEmpty = false) (hbound : es.length ≤ bound) (s : σ) (rest : List Char) :
    Reads (namedFields fields bound seen s) (entriesText es ++ rest)
      (es.foldl (fun s e => change e s) s) ('}' :: rest) := by
  -- A name that was seen belongs to no field if it comes again, here and in what is left to read.
  induction es generalizing bound seen s with
  | nil => exact reads_namedFields_nil hoptional bound seen s rest
  | cons e es ih =>
    obtain ⟨bound, rfl⟩ := Nat.exists_eq_add_one.mpr (Nat.zero_lt_of_lt hbound)
    obtain ⟨he, hes⟩ := List.forall_mem_cons.mp hfits
    obtain ⟨hfirst, hdistinct⟩ := List.pairwise_cons.mp hdistinct
    obtain ⟨hnew, hnews⟩ := List.forall_mem_cons.mp hseen
    have hmore := reads_moreKeys_next e.name (':' :: (e.text ++ (entriesText es ++ rest)))
    rw [← hnonempty] at hmore
    rw [entriesText, List.cons_append, List.append_assoc, List.cons_append, List.append_assoc]
    refine reads_namedFields_cons hmore he hnew (endsNumber_entriesText es rest)
      (ih hes hdistinct ?_ rfl (Nat.le_of_succ_le_succ hbound) (change e s))
    intro e' he' hmem
    obtain hsame | hmem := List.mem_cons.mp hmem
    · rw [hsame]
      exact hfirst e' he' hsame.symm
    · exact hnews e' he' hmem

lemma length_le_entriesText (es : List Entry) : es.length ≤ (entriesText es).length := by
  induction es with
  | nil => exact Nat.zero_le _
  | cons e es ih =>
    simp only [entriesText, List.length_cons, List.length_append]
    omega

lemma reads_record (title : String) (hoptional : ∀ f ∈ fields, f.required = false)
    {change : Entry → σ → σ} {es : List Entry} (hfits : ∀ e ∈ es, Fits fields e (change e))
    (hdistinct : DistinctFields fields es) (s : σ) (rest : List Char) :
    Reads (record title fields s) (objectText es ++ rest)
      (es.foldl (fun s e => change e s) s) rest := by
  cases es with
  | nil =>
    refine .located ((reads_first (by decide) _).bind ((reads_skip '{' _).bind ?_))
    exact .enclosed ((reads_bound _).bind (reads_namedFields_nil hoptional _ [] s rest))
      (reads_objectEnd rest)
  | cons e es =>
    obtain ⟨he, hes⟩ := List.forall_mem_cons.mp hfits
    obtain ⟨hfirst, hdistinct⟩ := List.pairwise_cons.mp hdistinct
    rw [objectText, List.cons_append, List.append_assoc, List.cons_append, List.append_assoc]
    refine .located ((reads_first (by decide) _).bind ((reads_skip '{' _).bind ?_))
    refine .enclosed ((reads_bound _).bind ?_) (reads_objectEnd rest)
    refine reads_namedFields_cons (reads_moreKeys_first e.name _) he nofun
      (endsNumber_entriesText es rest) (reads_namedFields hoptional hes hdistinct ?_ rfl ?_ _ rest)
    · intro e' he' hmem
      have hsame := List.mem_singleton.mp hmem
      rw [hsame]
      exact hfirst e' he' hsame.symm
    · have := length_le_entriesText es
      simp only [List.length_append, List.length_cons]
      omega

end Members

end RowFence.Json
