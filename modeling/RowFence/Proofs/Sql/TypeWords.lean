import RowFence.Proofs.Sql.FormTokens

/-! A word that names no type begins no literal with a type before it, whatever follows. -/

namespace RowFence.Sql.Parser

variable {α β : Type} {s : Source} {i j : Nat}

/-- A parser that is never cut off for its depth. -/
def Shallow (p : Parser α) : Prop := ∀ s i j, p s i ≠ (.error .tooDeep, j)

section Shallow

lemma shallow_pure (a : α) : Shallow (pure a : Parser α) := nofun

lemma shallow_expected (wanted : String) (found : PlacedToken) :
    Shallow (expected wanted found : Parser α) := nofun

lemma Shallow.bind {p : Parser α} {f : α → Parser β} (hp : Shallow p) (hf : ∀ a, Shallow (f a)) :
    Shallow (p >>= f) := by
  intro s i j h
  rw [run_bind] at h
  split at h
  · exact hf _ _ _ _ h
  · rename_i e k hrun
    obtain ⟨he, -⟩ := Prod.mk.inj h
    rw [Except.error.inj he] at hrun
    exact hp _ _ _ hrun

lemma Shallow.map {p : Parser α} (hp : Shallow p) (f : α → β) : Shallow (f <$> p) :=
  hp.bind fun _ => shallow_pure _

lemma shallow_next : Shallow next := nofun

lemma shallow_symbol (c : Symbol) : Shallow (symbol c) := by
  intro s i j h
  rw [run_symbol] at h
  split at h <;> cases h

lemma shallow_repeated {step : Parser (Option α)} (h : Shallow step) :
    (n : Nat) → Shallow (repeated step n)
  | 0 => shallow_pure []
  | n + 1 => h.bind fun a? => by
    cases a? with
    | none => exact shallow_pure []
    | some a => exact (shallow_repeated h n).bind fun _ => shallow_pure _

lemma shallow_many {step : Parser (Option α)} (h : Shallow step) : Shallow (many step) :=
  Shallow.bind (fun _ _ _ => nofun) fun _ => shallow_repeated h _

lemma shallow_identifier : Shallow identifier := by
  refine shallow_next.bind fun found => ?_
  split
  · exact shallow_pure _
  · exact shallow_pure _
  · exact shallow_pure _
  · exact shallow_expected _ _

lemma shallow_typeModifiers : Shallow typeModifiers := by
  refine (shallow_many (shallow_next.bind fun found => ?_)).bind fun _ => shallow_pure _
  split
  · exact shallow_pure _
  · exact shallow_pure _
  · exact shallow_pure _
  · exact shallow_pure _
  · exact shallow_pure _
  · exact shallow_expected _ _

end Shallow

lemma shallow_customType : Shallow customType := by
  refine shallow_identifier.bind fun first => ?_
  refine (shallow_many ((shallow_symbol .period).bind fun more => ?_)).bind fun rest => ?_
  · split
    · exact shallow_identifier.map some
    · exact shallow_pure none
  · refine (shallow_symbol .lParen).bind fun parens => ?_
    split
    · exact shallow_typeModifiers.bind fun _ => shallow_pure _
    · exact (shallow_pure []).bind fun _ => shallow_pure _

lemma exists_of_run_bind {p : Parser α} {f : α → Parser β} {b : β}
    (h : (p >>= f) s i = (.ok b, j)) : ∃ a k, p s i = (.ok a, k) ∧ f a s k = (.ok b, j) := by
  rw [run_bind] at h
  split at h
  · exact ⟨_, _, ‹_›, h⟩
  · cases h

lemma kind_customType {t : DataType} (h : customType s i = (.ok t, j)) :
    ∃ first, t.kind = .custom first := by
  obtain ⟨first, k, -, h⟩ := exists_of_run_bind h
  obtain ⟨rest, l, -, h⟩ := exists_of_run_bind h
  obtain ⟨parens, m, -, h⟩ := exists_of_run_bind h
  split at h
  · obtain ⟨modifiers, n, -, h⟩ := exists_of_run_bind h
    exact ⟨first, by rw [← Except.ok.inj (Prod.mk.inj h).1]⟩
  · obtain ⟨modifiers, n, -, h⟩ := exists_of_run_bind h
    exact ⟨first, by rw [← Except.ok.inj (Prod.mk.inj h).1]⟩

lemma plainType?_eq_none {key : String} (h : key ∉ typeWords) : plainType? key = none := by
  unfold plainType?
  split <;> first | rfl | exact absurd (by decide) h

lemma extraType?_eq_none (g : Grammar) (within : Parser (DataType × Bool)) (start : Position)
    (bound : Nat) {key : String} (h : key ∉ typeWords) :
    extraType? g within start bound key = none := by
  unfold extraType?
  split <;> first | rfl | exact absurd (by decide) h

/-- Without brackets a type has no suffix. -/
lemma run_arraySuffixes (hs : s.tokenAt i ≠ .symbol .lBracket) (t : DataType) :
    arraySuffixes t s i = (.ok t, i) := by
  refine (run_bind_ok (run_many_nil (j := i) ?_)).trans rfl
  simp [↓run_bind, run_symbol_false hs]

/-- A custom type, or an error that is not for the depth. -/
def IsCustomOrFails (r : Except SyntaxError (DataType × Bool)) : Prop :=
  (∃ t first, r = .ok (t, false) ∧ t.kind = .custom first) ∨ ∃ e, r = .error e ∧ e ≠ .tooDeep

lemma run_dataTypeWithin (g : Grammar) (hs : ∀ i, s.tokenAt i ≠ .symbol .lBracket)
    (hkey : (s.tokenAt i).key ∉ typeWords) (depth : Nat) :
    IsCustomOrFails (dataTypeWithin g (depth + 1) s i).1 := by
  have htoken : (s.placedAt i).token = s.tokenAt i := rfl
  simp only [dataTypeWithin, ↓run_bind, run_next, htoken]
  cases hword : s.tokenAt i with
  | word w =>
    rw [hword] at hkey
    replace hkey : w.key ∉ typeWords := hkey
    have hinterval : w.key ≠ "INTERVAL" := fun h => hkey (by rw [h]; decide)
    have harray : w.key ≠ "ARRAY" := fun h => hkey (by rw [h]; decide)
    simp only [↓run_bind, run_dialect, plainType?_eq_none hkey, extraType?_eq_none _ _ _ _ hkey,
      ite_self, run_back, Nat.add_sub_cancel]
    rcases hcustom : customType s i with ⟨e | t, j⟩
    · exact .inr ⟨e, rfl, fun he => shallow_customType s i j (he ▸ hcustom)⟩
    · obtain ⟨first, hfirst⟩ := kind_customType hcustom
      exact .inl ⟨t, first, by simp [run_arraySuffixes (hs _)], hfirst⟩
  | _ => exact .inr ⟨_, rfl, nofun⟩

/-- What begins with no type word is no literal with a type before it. -/
lemma run_typedLiteral (g : Grammar) (interval : Parser Expr)
    (hs : ∀ i, s.tokenAt i ≠ .symbol .lBracket) (hkey : (s.tokenAt i).key ∉ typeWords) :
    maybe? (typedLiteral g interval) s i = (.ok none, i) := by
  have hfail : ∃ e k, typedLiteral g interval s i = (.error e, k) ∧ e ≠ .tooDeep := by
    have htype := run_dataTypeWithin g hs hkey s.tokens.size
    rcases hrun : dataTypeWithin g (s.tokens.size + 1) s i with ⟨r, j⟩
    rw [hrun] at htype
    obtain ⟨t, first, rfl, hfirst⟩ | ⟨e, rfl, he⟩ := htype
    · exact ⟨.refused "no literal" .ending, j,
        by simp [typedLiteral, dataType, closedType, ↓run_bind, hrun, hfirst]; rfl, nofun⟩
    · exact ⟨e, j, by simp [typedLiteral, dataType, closedType, ↓run_bind, hrun], he⟩
  obtain ⟨e, k, hrun, he⟩ := hfail
  simp only [maybe?, hrun]

end RowFence.Sql.Parser
