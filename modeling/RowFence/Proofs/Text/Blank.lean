import Mathlib.Data.List.TakeWhile
import RowFence.Proofs.Text.LetterCase
import RowFence.Text.Blank

/-! Trimmed text: only the blanks around a text are lost, however often it is trimmed. -/

namespace RowFence.Text

lemma trimChars_append_blank (cs ws : List Char) (h : ∀ w ∈ ws, isBlank w = true) :
    trimChars (cs ++ ws) = trimChars cs := by
  unfold trimChars trimStart trimEnd
  rw [List.dropWhile_append]
  split
  · rename_i hcs
    rw [List.isEmpty_iff.mp hcs, List.dropWhile_eq_nil_iff.mpr h]
  · rw [List.reverse_append, List.dropWhile_append_of_pos fun w hw => h w (List.mem_reverse.mp hw)]

lemma trimChars_blank_append (ws cs : List Char) (h : ∀ w ∈ ws, isBlank w = true) :
    trimChars (ws ++ cs) = trimChars cs := by
  unfold trimChars trimStart
  rw [List.dropWhile_append_of_pos h]

lemma exists_eq_append_trimChars (cs : List Char) :
    ∃ ws ws', (∀ w ∈ ws, isBlank w = true) ∧ (∀ w ∈ ws', isBlank w = true) ∧
      cs = ws ++ (trimChars cs ++ ws') := by
  refine ⟨cs.takeWhile isBlank, ((trimStart cs).reverse.takeWhile isBlank).reverse, ?_, ?_, ?_⟩
  · exact fun w hw => List.mem_takeWhile_imp hw
  · exact fun w hw => List.mem_takeWhile_imp (List.mem_reverse.mp hw)
  · rw [trimChars, trimEnd, ← List.reverse_append, List.takeWhile_append_dropWhile,
      List.reverse_reverse, trimStart, List.takeWhile_append_dropWhile]

@[simp] lemma trimChars_trimChars (cs : List Char) : trimChars (trimChars cs) = trimChars cs := by
  obtain ⟨ws, ws', hws, hws', hcs⟩ := exists_eq_append_trimChars cs
  have h := congrArg trimChars hcs
  rw [trimChars_blank_append ws _ hws, trimChars_append_blank _ ws' hws'] at h
  exact h.symm

lemma trimStart_eq_self_iff (cs : List Char) :
    trimStart cs = cs ↔ ∀ c ∈ cs.head?, isBlank c = false := by
  rw [trimStart, List.dropWhile_eq_self_iff]
  cases cs with
  | nil => simp
  | cons c cs => simp

lemma trimEnd_eq_self_iff (cs : List Char) :
    trimEnd cs = cs ↔ ∀ c ∈ cs.getLast?, isBlank c = false := by
  rw [trimEnd, List.reverse_eq_iff, ← trimStart, trimStart_eq_self_iff, List.head?_reverse]

/-- Nothing is lost just in case there is no blank at either end. -/
lemma trimChars_eq_self_iff (cs : List Char) :
    trimChars cs = cs ↔
      (∀ c ∈ cs.head?, isBlank c = false) ∧ ∀ c ∈ cs.getLast?, isBlank c = false := by
  rw [← trimStart_eq_self_iff, ← trimEnd_eq_self_iff]
  constructor
  · intro h
    have hstart : (trimStart cs).Sublist cs := List.dropWhile_sublist _
    have hend : (trimEnd (trimStart cs)).Sublist (trimStart cs) :=
      List.reverse_sublist.mp (by rw [trimEnd, List.reverse_reverse]; exact List.dropWhile_sublist _)
    rw [← trimChars, h] at hend
    have hself := hstart.eq_of_length_le hend.length_le
    rw [trimChars, hself] at h
    exact ⟨hself, h⟩
  · rintro ⟨hstart, hend⟩
    rw [trimChars, hstart, hend]

lemma mem_of_mem_trimChars {c : Char} {cs : List Char} (h : c ∈ trimChars cs) : c ∈ cs := by
  obtain ⟨ws, ws', -, -, hcs⟩ := exists_eq_append_trimChars cs
  rw [hcs]
  exact List.mem_append_right ws (List.mem_append_left ws' h)

@[simp] lemma isBlank_toLower (c : Char) : isBlank c.toLower = isBlank c := by
  unfold isBlank
  rw [toNat_toLower]
  split <;> grind

lemma trimChars_map_toLower (cs : List Char) :
    trimChars (cs.map Char.toLower) = (trimChars cs).map Char.toLower := by
  have hblank : isBlank ∘ Char.toLower = isBlank := funext isBlank_toLower
  simp only [trimChars, trimStart, trimEnd, List.dropWhile_map, ← List.map_reverse, hblank]

end RowFence.Text
