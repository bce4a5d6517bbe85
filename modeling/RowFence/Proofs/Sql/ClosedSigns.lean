import RowFence.Proofs.Sql.Splitting

/-! Words and signs that are read alike before a closing parenthesis. -/

namespace RowFence.Sql

@[simp] def plainSymbols : List Symbol :=
  [.comma, .semiColon, .period, .lParen, .rParen, .eq, .neq, .lt, .gt, .ltEq, .gtEq, .spaceship,
    .plus, .minus, .mul, .div, .mod, .stringConcat]

/-- Tokens whose text ends before a closing parenthesis, wherever they stand. -/
def Token.isPlain : Token → Bool
  | .word _ | .number _ _ | .string .single _ => true
  | .symbol s => plainSymbols.contains s
  | _ => false

namespace Lexer

/-- What is left is the end of the text, and a closing parenthesis after the text changes nothing
but that. -/
def ReadsOn (read : List Char → Step) (text : List Char) : Prop :=
  ∀ t rest, read text = .ok (.token t, rest) → t.isPlain = true →
    rest <:+ text ∧ ∀ more, read (text ++ ')' :: more) = .ok (.token t, rest ++ ')' :: more)

section Spans

variable {p : Char → Bool} (hp : p ')' = false) (cs more : List Char)

include hp

@[simp] lemma takeWhile_closed : (cs ++ ')' :: more).takeWhile p = cs.takeWhile p := by
  induction cs with
  | nil => simp [hp]
  | cons c cs ih => cases hc : p c <;> simp [hc, ih]

@[simp] lemma dropWhile_closed :
    (cs ++ ')' :: more).dropWhile p = cs.dropWhile p ++ ')' :: more := by
  induction cs with
  | nil => simp [hp]
  | cons c cs ih => cases hc : p c <;> simp [hc, ih]

end Spans

lemma exists_of_closed_eq_cons {cs more rest : List Char} {c : Char}
    (h : cs ++ ')' :: more = c :: rest) (hc : c ≠ ')') :
    ∃ cs', cs = c :: cs' ∧ rest = cs' ++ ')' :: more := by
  cases cs with
  | nil => exact absurd (List.cons.inj h).1.symm hc
  | cons a cs =>
    obtain ⟨rfl, rfl⟩ := List.cons.inj h
    exact ⟨cs, rfl, rfl⟩

lemma token_inj {a t : Token} {left rest : List Char}
    (h : (.ok (.token a, left) : Step) = .ok (.token t, rest)) : a = t ∧ left = rest := by
  cases h
  exact ⟨rfl, rfl⟩

section Words

variable (d : Dialect)

lemma not_continuesWord_paren : d.continuesWord ')' = false := by cases d <;> decide +kernel

lemma readsOn_plainWord (c : Char) (cs : List Char) : ReadsOn (plainWord d c) cs := by
  rintro t rest h -
  rw [plainWord] at h
  obtain ⟨rfl, rfl⟩ := token_inj h
  refine ⟨List.dropWhile_suffix _, fun more => ?_⟩
  rw [plainWord, takeWhile_closed (not_continuesWord_paren d),
    dropWhile_closed (not_continuesWord_paren d)]

lemma readsOn_wordFrom (start cs : List Char) : ReadsOn (wordFrom d start) cs := by
  rintro t rest h -
  have htake := fun cs more => takeWhile_closed
    (p := fun c : Char => c.isDigit || decide (c = '.')) (by decide) cs more
  have hdrop := fun cs more => dropWhile_closed
    (p := fun c : Char => c.isDigit || decide (c = '.')) (by decide) cs more
  simp only [wordFrom, takeWhile_closed (not_continuesWord_paren d),
    dropWhile_closed (not_continuesWord_paren d), htake, hdrop] at h ⊢
  split at h
  · next hall =>
    obtain ⟨rfl, rfl⟩ := token_inj h
    refine ⟨(List.dropWhile_suffix _).trans (List.dropWhile_suffix _), fun more => ?_⟩
    rw [if_pos hall]
  · next hall =>
    obtain ⟨rfl, rfl⟩ := token_inj h
    exact ⟨List.dropWhile_suffix _, fun more => if_neg hall⟩

end Words

section Signs

variable (d : Dialect)

lemma readsOn_sign (s : Symbol) (cs : List Char) : ReadsOn (sign s) cs := by
  rintro t rest h -
  obtain ⟨rfl, rfl⟩ := token_inj h
  exact ⟨List.suffix_refl _, fun more => rfl⟩

lemma not_extendsOperator_paren : d.extendsOperator ')' = false := by cases d <;> decide

lemma readsOn_operator (s : Symbol) (cs : List Char) : ReadsOn (operator d s) cs := by
  intro t rest h ht
  simp only [operator, takeWhile_closed (not_extendsOperator_paren d)] at h ⊢
  split at h
  · next hextra =>
    obtain ⟨rfl, rfl⟩ := token_inj h
    exact ⟨List.suffix_refl _, fun more => if_pos hextra⟩
  · obtain ⟨rfl, rfl⟩ := token_inj h
    cases ht

lemma not_isPlain_of_operator {s : Symbol} {t : Token} {cs rest : List Char}
    (h : operator d s cs = .ok (.token t, rest)) (hs : (Token.symbol s).isPlain = false) :
    ¬ t.isPlain = true := by
  rw [Bool.not_eq_true]
  unfold operator at h
  dsimp only at h
  split at h
  · obtain ⟨rfl, -⟩ := token_inj h
    exact hs
  · obtain ⟨rfl, -⟩ := token_inj h
    rfl

lemma not_isPlain_of_sign {s : Symbol} {t : Token} {cs rest : List Char}
    (h : sign s cs = .ok (.token t, rest)) (hs : (Token.symbol s).isPlain = false) :
    ¬ t.isPlain = true := by
  obtain ⟨rfl, -⟩ := token_inj h
  rwa [Bool.not_eq_true]

lemma ReadsOn.rest {read inner : List Char → Step} {cs cs' : List Char} (h : ReadsOn inner cs')
    (hsuffix : cs' <:+ cs) (hmore : ∀ more, read (cs ++ ')' :: more) = inner (cs' ++ ')' :: more))
    {t : Token} {rest : List Char} (hread : inner cs' = .ok (.token t, rest))
    (ht : t.isPlain = true) :
    rest <:+ cs ∧ ∀ more, read (cs ++ ')' :: more) = .ok (.token t, rest ++ ')' :: more) := by
  obtain ⟨hrest, hclosed⟩ := h t rest hread ht
  exact ⟨hrest.trans hsuffix, fun more => (hmore more).trans (hclosed more)⟩

lemma readsOn_dash (cs : List Char) : ReadsOn (dash d) cs := by
  intro t rest h ht
  unfold dash at h
  split at h
  · cases h
  · exact absurd ht (not_isPlain_of_operator d h rfl)
  · exact absurd ht (not_isPlain_of_operator d h rfl)
  · refine (readsOn_operator d .minus cs).rest (List.suffix_refl _) (fun more => ?_) h ht
    unfold dash
    split <;> simp_all [List.append_eq_cons_iff]

lemma readsOn_slash (cs : List Char) : ReadsOn (slash d) cs := by
  intro t rest h ht
  unfold slash at h
  split at h
  · unfold blockComment at h
    split at h <;> cases h
  · split at h
    · exact absurd ht (not_isPlain_of_sign h rfl)
    · next hd =>
      refine (readsOn_sign .div ('/' :: _)).rest (List.suffix_refl _) (fun more => ?_) h ht
      simp [slash, hd]
  · refine (readsOn_sign .div cs).rest (List.suffix_refl _) (fun more => ?_) h ht
    unfold slash
    split <;> simp_all [List.append_eq_cons_iff]

lemma readsOn_percent (cs : List Char) : ReadsOn (percent d) cs := by
  intro t rest h ht
  have hparen : Text.isBlank ')' = false := by decide
  cases cs with
  | nil =>
    refine (readsOn_operator d .mod []).rest (List.suffix_refl _) (fun more => ?_) h ht
    simp [percent, hparen]
  | cons c cs =>
    simp only [percent] at h
    split at h
    · next hblank =>
      refine (readsOn_sign .mod (c :: cs)).rest (List.suffix_refl _) (fun more => ?_) h ht
      simp [percent, hblank]
    · next hblank =>
      refine (readsOn_operator d .mod (c :: cs)).rest (List.suffix_refl _) (fun more => ?_) h ht
      simp [percent, hblank]

lemma readsOn_bar (cs : List Char) : ReadsOn (bar d) cs := by
  intro t rest h ht
  unfold bar at h
  split at h
  · exact absurd ht (not_isPlain_of_operator d h rfl)
  · exact absurd ht (not_isPlain_of_operator d h rfl)
  · next cs hroot =>
    refine (readsOn_operator d .stringConcat cs).rest (List.suffix_cons _ _) (fun more => ?_) h ht
    unfold bar
    split <;> simp_all [List.append_eq_cons_iff]
  · exact absurd ht (not_isPlain_of_operator d h rfl)

lemma readsOn_equals (cs : List Char) : ReadsOn equals cs := by
  intro t rest h ht
  unfold equals at h
  split at h
  · exact absurd ht (not_isPlain_of_sign h rfl)
  · exact absurd ht (not_isPlain_of_sign h rfl)
  · refine (readsOn_sign .eq cs).rest (List.suffix_refl _) (fun more => ?_) h ht
    unfold equals
    split <;> simp_all [List.append_eq_cons_iff]

lemma readsOn_bang (cs : List Char) : ReadsOn bang cs := by
  intro t rest h ht
  unfold bang at h
  split at h
  · exact (readsOn_sign .neq _).rest (List.suffix_cons _ _) (fun _ => rfl) h ht
  all_goals exact absurd ht (not_isPlain_of_sign h rfl)

lemma readsOn_less (cs : List Char) : ReadsOn (less d) cs := by
  intro t rest h ht
  unfold less at h
  split at h
  · exact (readsOn_operator d .spaceship _).rest
      ((List.suffix_cons _ _).trans (List.suffix_cons _ _)) (fun _ => rfl) h ht
  · next cs hlong =>
    refine (readsOn_operator d .ltEq cs).rest (List.suffix_cons _ _) (fun more => ?_) h ht
    unfold less
    split <;> simp_all [List.append_eq_cons_iff]
  · exact (readsOn_operator d .neq _).rest (List.suffix_cons _ _) (fun _ => rfl) h ht
  · exact absurd ht (not_isPlain_of_operator d h rfl)
  · exact absurd ht (not_isPlain_of_operator d h rfl)
  · refine (readsOn_operator d .lt cs).rest (List.suffix_refl _) (fun more => ?_) h ht
    unfold less
    split <;> simp_all [List.append_eq_cons_iff]

lemma readsOn_greater (cs : List Char) : ReadsOn (greater d) cs := by
  intro t rest h ht
  unfold greater at h
  split at h
  · exact (readsOn_operator d .gtEq _).rest (List.suffix_cons _ _) (fun _ => rfl) h ht
  · exact absurd ht (not_isPlain_of_operator d h rfl)
  · refine (readsOn_operator d .gt cs).rest (List.suffix_refl _) (fun more => ?_) h ht
    unfold greater
    split <;> simp_all [List.append_eq_cons_iff]

lemma readsOn_hash (cs : List Char) : ReadsOn (hash d) cs := by
  intro t rest h ht
  unfold hash at h
  split at h
  · cases h
  · next hd =>
    split at h
    · exact absurd ht (not_isPlain_of_operator d h rfl)
    · exact absurd ht (not_isPlain_of_operator d h rfl)
    · exact absurd ht (not_isPlain_of_operator d h rfl)
    · exact absurd ht (not_isPlain_of_sign h rfl)
    · split at h
      · next hword =>
        refine (readsOn_wordFrom d _ _).rest (List.suffix_cons _ _) (fun more => ?_) h ht
        unfold hash
        rw [if_neg hd]
        split <;> simp_all [List.append_eq_cons_iff]
      · exact absurd ht (not_isPlain_of_operator d h rfl)
    · exact absurd ht (not_isPlain_of_sign h rfl)


lemma readsOn_atChar (cs : List Char) : ReadsOn (atChar d) cs := by
  intro t rest h ht
  unfold atChar at h
  split at h
  · exact absurd ht (not_isPlain_of_sign h rfl)
  · exact absurd ht (not_isPlain_of_sign h rfl)
  · exact absurd ht (not_isPlain_of_sign h rfl)
  · split at h
    · next hword =>
      refine (readsOn_wordFrom d _ _).rest
        ((List.suffix_cons _ _).trans (List.suffix_cons _ _)) (fun more => ?_) h ht
      simp_all [atChar]
    · exact absurd ht (not_isPlain_of_sign h rfl)
  · exact absurd ht (not_isPlain_of_sign h rfl)
  · exact absurd ht (not_isPlain_of_sign h rfl)
  · next c after _ _ _ hmany hone _ =>
    have hat : c ≠ '@' := by
      rintro rfl
      cases after with
      | nil => exact hone rfl rfl
      | cons a after => exact hmany a after rfl rfl
    split at h
    · refine (readsOn_wordFrom d _ _).rest (List.suffix_cons _ _) (fun more => ?_) h ht
      unfold atChar
      split <;> simp_all
    · exact absurd ht (not_isPlain_of_sign h rfl)
  · exact absurd ht (not_isPlain_of_sign h rfl)

lemma readsOn_of_not_isPlain {read : List Char → Step} {cs : List Char}
    (h : ∀ t rest, read cs = .ok (.token t, rest) → ¬ t.isPlain = true) : ReadsOn read cs :=
  fun t rest hread ht => absurd ht (h t rest hread)

lemma readsOn_colons (cs : List Char) : ReadsOn colons cs := by
  refine readsOn_of_not_isPlain fun t rest h => ?_
  unfold colons at h
  split at h <;> exact not_isPlain_of_sign h rfl

lemma readsOn_ampersand (cs : List Char) : ReadsOn (ampersand d) cs := by
  refine readsOn_of_not_isPlain fun t rest h => ?_
  unfold ampersand at h
  split at h <;> exact not_isPlain_of_operator d h rfl

lemma readsOn_caret (cs : List Char) : ReadsOn caret cs := by
  refine readsOn_of_not_isPlain fun t rest h => ?_
  unfold caret at h
  split at h <;> exact not_isPlain_of_sign h rfl

lemma readsOn_tilde (cs : List Char) : ReadsOn (tilde d) cs := by
  refine readsOn_of_not_isPlain fun t rest h => ?_
  unfold tilde at h
  split at h <;> exact not_isPlain_of_operator d h rfl

lemma readsOn_questionMark (cs : List Char) : ReadsOn (questionMark d) cs := by
  refine readsOn_of_not_isPlain fun t rest h => ?_
  unfold questionMark at h
  split at h
  · split at h <;> exact not_isPlain_of_sign h rfl
  · obtain ⟨rfl, -⟩ := token_inj h
    exact Bool.false_ne_true

lemma readsOn_operator? {c : Char} {read : List Char → Step} (h : operator? d c = some read)
    (cs : List Char) : ReadsOn read cs := by
  unfold operator? at h
  split at h <;> cases h
  · exact readsOn_dash d cs
  · exact readsOn_slash d cs
  · exact readsOn_percent d cs
  · exact readsOn_bar d cs
  · exact readsOn_equals cs
  · exact readsOn_bang cs
  · exact readsOn_less d cs
  · exact readsOn_greater d cs
  · exact readsOn_colons cs
  · exact readsOn_ampersand d cs
  · exact readsOn_caret cs
  · exact readsOn_tilde d cs
  · exact readsOn_hash d cs
  · exact readsOn_atChar d cs
  · exact readsOn_questionMark d cs

end Signs

end RowFence.Sql.Lexer
