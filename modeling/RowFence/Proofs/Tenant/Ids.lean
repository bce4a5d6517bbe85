import RowFence.Proofs.Json.Numerals
import RowFence.Proofs.Tenant.Resolution
import RowFence.Proofs.Text.Split

/-! Tenant identifiers are the positive integers of 64 bits, wherever they come from: numbers, numerals in
text, or JSON. What is written of an identifier is read as it again. -/

namespace RowFence.TenantId

open Text

def InRange (v : Nat) : Prop := 1 ≤ v ∧ v ≤ Nat.pow 2 63 - 1

lemma inRange_value (t : TenantId) : InRange t.value :=
  ⟨t.positive, Nat.le_sub_one_of_lt t.bounded⟩

lemma exists_of_inRange {v : Nat} (h : InRange v) : ∃ t : TenantId, t.value = v :=
  ⟨⟨v, h.1, Nat.lt_of_le_sub_one (by decide) h.2⟩, rfl⟩

lemma exists_value_iff {made : TenantId → Prop} {P : Nat → Prop} (h : ∀ t, made t ↔ P t.value)
    (v : Nat) : (∃ t, made t ∧ t.value = v) ↔ P v ∧ InRange v := by
  constructor
  · rintro ⟨t, hmade, rfl⟩
    exact ⟨(h t).mp hmade, t.inRange_value⟩
  · rintro ⟨hv, hrange⟩
    obtain ⟨t, rfl⟩ := exists_of_inRange hrange
    exact ⟨t, (h t).mpr hv, rfl⟩

section Texts

lemma ofText_eq_ok_iff {s : String} {t : TenantId} :
    ofText s = .ok t ↔ IsNumeral (trimChars s.toList) t.value := by
  rw [← toOption_ofText_eq_some_iff]
  cases ofText s with
  | error e => exact ⟨nofun, nofun⟩
  | ok u => exact ⟨congrArg Except.toOption, fun h => congrArg Except.ok (Option.some.inj h)⟩

lemma ofText_eq_error_iff (s : String) :
    ofText s = .error ⟨trim s⟩ ↔ ¬ ∃ v, IsNumeral (trimChars s.toList) v ∧ InRange v := by
  have hread (v : Nat) := exists_value_iff (fun t => ofText_eq_ok_iff (s := s) (t := t)) v
  simp only [← hread]
  have hcases : ofText s = .error ⟨trim s⟩ ∨ ∃ t, ofText s = .ok t := by
    simp only [ofText]
    cases ofDigits? (trimChars s.toList) with
    | none => exact .inl rfl
    | some t => exact .inr ⟨t, rfl⟩
  obtain herror | ⟨t, ht⟩ := hcases
  · rw [herror]
    refine iff_of_true rfl ?_
    rintro ⟨v, t, ht, rfl⟩
    cases ht
  · rw [ht]
    refine iff_of_false (fun herror => ?_) (not_not.mpr ⟨t.value, t, rfl, rfl⟩)
    cases herror

lemma isNumeral_toDigits (n : Nat) : IsNumeral (Nat.toDigits 10 n) n := by
  obtain ⟨hne, hall⟩ := Json.isDigits_toDigits n
  exact ⟨_, hne, hall, Nat.ofDigitChars_ten_toDigits, .inl rfl⟩

lemma isBlank_of_isDigit {c : Char} (h : c.isDigit = true) : isBlank c = false := by
  rw [isDigit_iff] at h
  unfold isBlank
  grind

lemma trimChars_of_isDigit {cs : List Char} (h : cs.all Char.isDigit = true) : trimChars cs = cs := by
  rw [List.all_eq_true] at h
  have hstart (ds : List Char) (hds : ∀ d ∈ ds, d.isDigit = true) : ds.dropWhile isBlank = ds := by
    refine List.dropWhile_eq_self_iff.mpr fun hlength => ?_
    rw [isBlank_of_isDigit (hds _ (List.getElem_mem hlength))]
    exact Bool.false_ne_true
  rw [trimChars, trimStart, hstart cs h, trimEnd, hstart _ fun d hd => h d (List.mem_reverse.mp hd),
    List.reverse_reverse]

lemma ofText_spelling (t : TenantId) : ofText t.spelling = .ok t := by
  have hlist : t.spelling.toList = Nat.toDigits 10 t.value := Nat.toList_repr
  rw [ofText_eq_ok_iff, hlist, trimChars_of_isDigit (Json.isDigits_toDigits _).2]
  exact isNumeral_toDigits t.value

end Texts

section Json

open RowFence.Json Reader

lemma ofInt_eq_ok_iff {i : Int} {t : TenantId} : ofInt i = .ok t ↔ i = t.value := by
  rw [← ofInt?_eq_some_iff, ofInt]
  cases ofInt? i with
  | none => exact ⟨nofun, nofun⟩
  | some u => exact ⟨fun h => congrArg some (Except.ok.inj h), fun h => congrArg Except.ok (Option.some.inj h)⟩

lemma reader_eq_ok_iff {c c' : Cursor} {t : TenantId} :
    reader c = (.ok t, c') ↔ integer "i64" isInt64 c = (.ok (t.value : Int), c') := by
  rw [reader, run_bind]
  obtain ⟨result, d⟩ := integer "i64" isInt64 c
  cases result with
  | error e => exact ⟨nofun, nofun⟩
  | ok i =>
    have hpair : ((.ok i, d) : Except Fault Int × Cursor) = (.ok (t.value : Int), c') ↔
        ofInt i = .ok t ∧ d = c' := by
      rw [Prod.mk.injEq, Except.ok.injEq, ofInt_eq_ok_iff]
    rw [hpair]
    dsimp only
    cases ofInt i with
    | error e => exact ⟨nofun, fun h => nomatch h.1⟩
    | ok u => exact ⟨fun h => by cases h; exact ⟨rfl, rfl⟩, fun ⟨h, hd⟩ => by cases h; rw [hd]; rfl⟩

lemma run_reader_eq_ok_iff {text : String} {t : TenantId} :
    reader.run text = .ok t ↔ (integer "i64" isInt64).run text = .ok (t.value : Int) := by
  simp only [run_eq_ok_iff, reader_eq_ok_iff]

lemma isInt64_value (t : TenantId) : isInt64 t.value = true := by
  have hbounded : t.value < 9223372036854775808 := t.bounded
  rw [Json.isInt64_iff]
  omega

lemma run_reader_render (t : TenantId) : reader.run t.toJson.render = .ok t := by
  have hrender : t.toJson.render = String.ofList (toString (t.value : Int)).toList := rfl
  have hreads := reads_integer "i64" t.isInt64_value t.isInt64_value EndsNumber.nil
  rw [hrender, run_reader_eq_ok_iff]
  rw [List.append_nil] at hreads
  exact hreads.run

end Json

open RowFence.Json Reader in
/-- Texts, numbers and JSON give an identifier just in case they stand for a positive integer of 64
bits, and then this one; and what is written of an identifier is read as it again. -/
theorem inRange_every_way :
    (∀ s v, (∃ t, ofText s = .ok t ∧ t.value = v) ↔
      IsNumeral (trimChars s.toList) v ∧ InRange v) ∧
    (∀ s, ofText s = .error ⟨trim s⟩ ↔
      ¬ ∃ v, IsNumeral (trimChars s.toList) v ∧ InRange v) ∧
    (∀ i v, (∃ t, ofInt? i = some t ∧ t.value = v) ↔ i = (v : Int) ∧ InRange v) ∧
    (∀ i v, (∃ t, ofInt i = .ok t ∧ t.value = v) ↔ i = (v : Int) ∧ InRange v) ∧
    (∀ text v, (∃ t, reader.run text = .ok t ∧ t.value = v) ↔
      (integer "i64" isInt64).run text = .ok (v : Int) ∧ InRange v) ∧
    ∀ t : TenantId, ofText (toString t) = .ok t ∧ ofText t.spelling = .ok t ∧
      reader.run t.toJson.render = .ok t := by
  refine ⟨fun s => ?_, ofText_eq_error_iff, fun i => ?_, fun i => ?_, fun text => ?_, fun t => ?_⟩
  · exact exists_value_iff fun t => ofText_eq_ok_iff
  · exact exists_value_iff (P := (i = ·)) fun t => ofInt?_eq_some_iff
  · exact exists_value_iff (P := (i = ·)) fun t => ofInt_eq_ok_iff
  · exact exists_value_iff (P := ((integer "i64" isInt64).run text = .ok ·)) fun t =>
      run_reader_eq_ok_iff
  · exact ⟨ofText_spelling t, ofText_spelling t, run_reader_render t⟩

end RowFence.TenantId
