import Mathlib.Tactic.Lemma
import RowFence.Json.Shape

/-! What readers of JSON take from the front of a text. Where in the text they stand makes no
difference to what they read. -/

namespace RowFence.Json

def Reads {α : Type} (r : Reader α) (text : List Char) (a : α) (rest : List Char) : Prop :=
  ∀ place, ∃ place', r ⟨text, place⟩ = (.ok a, ⟨rest, place'⟩)

namespace Reader

variable {α β : Type} {text rest rest' : List Char}

lemma run_bind (m : Reader α) (f : α → Reader β) (c : Cursor) :
    (m >>= f) c = match m c with
      | (.ok a, c') => f a c'
      | (.error e, c') => (.error e, c') := by
  change StateT.bind m (ExceptT.bindCont f) c = _
  unfold StateT.bind
  rcases m c with ⟨e | a, c'⟩ <;> rfl

lemma run_tryCatch (m : Reader α) (f : Fault → Reader α) (c : Cursor) :
    tryCatch m f c = match m c with
      | (.ok a, c') => (.ok a, c')
      | (.error e, c') => f e c' := by
  change ExceptT.tryCatch m f c = _
  simp only [ExceptT.tryCatch, ExceptT.mk, Bind.bind, StateT.bind]
  rcases m c with ⟨e | a, c'⟩ <;> rfl

end Reader

open Reader

variable {α β : Type} {text rest rest' : List Char}

namespace Reads

lemma pure (a : α) (text : List Char) : Reads (Pure.pure a) text a text :=
  fun place => ⟨place, rfl⟩

lemma bind {m : Reader α} {f : α → Reader β} {a : α} {b : β} (hm : Reads m text a rest)
    (hf : Reads (f a) rest b rest') : Reads (m >>= f) text b rest' := by
  intro place
  obtain ⟨between, hm⟩ := hm place
  obtain ⟨place', hf⟩ := hf between
  exact ⟨place', by rw [run_bind, hm]; exact hf⟩

lemma tryCatch {m : Reader α} {a : α} (hm : Reads m text a rest) (f : Fault → Reader α) :
    Reads (tryCatchThe Fault m f) text a rest := by
  intro place
  obtain ⟨place', hm⟩ := hm place
  refine ⟨place', (run_tryCatch m f _).trans ?_⟩
  rw [hm]

lemma located {m : Reader α} {a : α} (hm : Reads m text a rest) : Reads (located m) text a rest :=
  hm.tryCatch _

lemma inside {m : Reader α} {a : α} (step : Step) (hm : Reads m text a rest) :
    Reads (inside step m) text a rest :=
  hm.tryCatch _

lemma enclosed {m : Reader α} {a : α} {ending : Reader Unit} (hm : Reads m text a rest)
    (hend : Reads ending rest () rest') : Reads (enclosed m ending) text a rest' := by
  have hok : Reads (Except.ok <$> m : Reader (Except Fault α)) text (.ok a) rest :=
    hm.bind (pure (Except.ok a) rest)
  exact (hok.tryCatch _).bind (hend.bind (pure a rest'))

end Reads

section Steps

variable {c : Char}

lemma reads_peek (text : List Char) : Reads peek text text.head? text := fun place => ⟨place, rfl⟩

lemma reads_skip (c : Char) (rest : List Char) : Reads skip (c :: rest) () rest :=
  fun place => ⟨place.after c, rfl⟩

lemma reads_bound (text : List Char) : Reads bound text (text.length + 1) text :=
  fun place => ⟨place, rfl⟩

lemma reads_takeWhile (p : Char → Bool) (text : List Char) :
    Reads (takeWhile p) text (text.takeWhile p) (text.dropWhile p) :=
  fun place => ⟨(text.takeWhile p).foldl .after place, rfl⟩

lemma reads_blanks (text : List Char) :
    Reads blanks text (text.dropWhile isSpace).head? (text.dropWhile isSpace) :=
  fun place => ⟨(text.takeWhile isSpace).foldl .after place, rfl⟩

lemma reads_blanks_cons (h : isSpace c = false) (rest : List Char) :
    Reads blanks (c :: rest) (some c) (c :: rest) := by
  have hblanks := reads_blanks (c :: rest)
  rwa [List.dropWhile_cons_of_neg (by simp [h])] at hblanks

lemma reads_first (h : isSpace c = false) (rest : List Char) :
    Reads first (c :: rest) c (c :: rest) :=
  (reads_blanks_cons h rest).bind (.pure c _)

lemma reads_word (word rest : List Char) : Reads (Reader.word word) (word ++ rest) () rest := by
  induction word with
  | nil => exact .pure () rest
  | cons c cs ih =>
    refine (reads_peek _).bind ?_
    rw [List.cons_append, List.head?_cons]
    dsimp only
    rw [if_pos rfl]
    exact (reads_skip c _).bind ih

lemma reads_colon (rest : List Char) : Reads colon (':' :: rest) () rest :=
  (reads_blanks_cons (by decide) rest).bind (reads_skip ':' rest)

lemma reads_listEnd (rest : List Char) : Reads listEnd (']' :: rest) () rest :=
  (reads_blanks_cons (by decide) rest).bind (reads_skip ']' rest)

lemma reads_objectEnd (rest : List Char) : Reads objectEnd ('}' :: rest) () rest :=
  (reads_blanks_cons (by decide) rest).bind (reads_skip '}' rest)

end Steps

section Runs

lemma run_eq_ok_iff {r : Reader α} {text : String} {a : α} :
    r.run text = .ok a ↔
      ∃ c, r (Cursor.ofText text) = (.ok a, c) ∧ c.rest.dropWhile isSpace = [] := by
  rw [run, runOnStart, toEnd, run_bind]
  obtain ⟨result, c⟩ := r (Cursor.ofText text)
  cases result with
  | error e => exact ⟨nofun, nofun⟩
  | ok b =>
    obtain ⟨place, hblanks⟩ := reads_blanks c.rest c.place
    dsimp only
    rw [run_bind, hblanks]
    cases hrest : c.rest.dropWhile isSpace with
    | nil => exact ⟨fun h => ⟨c, by rw [Except.ok.inj h], hrest⟩, fun ⟨_, h, _⟩ => by cases h; rfl⟩
    | cons d rest => exact ⟨nofun, fun ⟨_, h, hc⟩ => by cases h; exact nomatch hrest.symm.trans hc⟩

lemma Reads.run {r : Reader α} {a : α} (h : Reads r text a []) :
    r.run (String.ofList text) = .ok a := by
  obtain ⟨place, hr⟩ := h .start
  exact run_eq_ok_iff.mpr ⟨⟨[], place⟩, by rw [Cursor.ofText, String.toList_ofList]; exact hr, rfl⟩

end Runs

end RowFence.Json
