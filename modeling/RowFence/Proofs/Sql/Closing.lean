import RowFence.Proofs.Sql.ClosedSigns

/-! A text is split into the same tokens before a closing parenthesis, unless it ends in a comment. -/

namespace RowFence.Sql.Lexer

section Numbers

variable (d : Dialect) (cs more : List Char)

lemma digits_closed :
    digits (cs ++ ')' :: more) = ((digits cs).1, (digits cs).2 ++ ')' :: more) := by
  have hparen : Char.isDigit ')' = false := by decide
  simp only [digits, takeWhile_closed hparen, dropWhile_closed hparen]

lemma exponentMark_closed :
    exponentMark (cs ++ ')' :: more) = ((exponentMark cs).1, (exponentMark cs).2 ++ ')' :: more) := by
  match cs with
  | [] => rfl
  | [c] => by_cases hc : c = 'e' ∨ c = 'E' <;> simp [exponentMark, hc]
  | c :: a :: cs =>
    by_cases hc : c = 'e' ∨ c = 'E'
    · by_cases hplus : a = '+'
      · simp [exponentMark, hc, hplus]
      · by_cases hminus : a = '-' <;> simp [exponentMark, hc, hplus, hminus]
    · simp [exponentMark, hc]

lemma exponentMark_suffix : (exponentMark cs).2 <:+ cs := by
  unfold exponentMark
  split
  · next c rest =>
    split
    · split
      · exact (List.suffix_cons _ _).trans (List.suffix_cons _ _)
      · exact (List.suffix_cons _ _).trans (List.suffix_cons _ _)
      · exact List.suffix_cons _ _
    · exact List.suffix_refl _
  · exact List.suffix_refl _

/-- The end of a number, after the digits around its period. -/
def numberEnd (d : Dialect) (read rest : List Char) : Token × List Char :=
  if read = ['.'] then (.symbol .period, rest) else
  let (mark, afterMark) := exponentMark rest
  let (exponent, afterExponent) := digits afterMark
  let scaled := !mark.isEmpty && !exponent.isEmpty
  let read := if scaled then read ++ mark ++ exponent else read
  let rest := if scaled then afterExponent else rest
  let wordTail := rest.takeWhile d.continuesWord
  if d.digitsStartWord && mark.isEmpty && !wordTail.isEmpty then
    (.word (.plain (String.ofList (read ++ wordTail))), rest.dropWhile d.continuesWord)
  else
    match rest with
    | 'L' :: rest => (.number (String.ofList read) true, rest)
    | _ => (.number (String.ofList read) false, rest)

lemma numberEnd_closed (read : List Char) : numberEnd d read (cs ++ ')' :: more) =
    ((numberEnd d read cs).1, (numberEnd d read cs).2 ++ ')' :: more) := by
  unfold numberEnd
  split
  · rfl
  · simp only [exponentMark_closed, digits_closed]
    generalize hscaled : (!(exponentMark cs).1.isEmpty && !(digits (exponentMark cs).2).1.isEmpty) =
      scaled
    have hrest : (if scaled = true then (digits (exponentMark cs).2).2 ++ ')' :: more
        else cs ++ ')' :: more) =
          (if scaled = true then (digits (exponentMark cs).2).2 else cs) ++ ')' :: more := by
      cases scaled <;> rfl
    rw [hrest]
    generalize (if scaled = true then (digits (exponentMark cs).2).2 else cs) = rest
    simp only [takeWhile_closed (not_continuesWord_paren d), dropWhile_closed (not_continuesWord_paren d)]
    split
    · rfl
    · cases rest with
      | nil => rfl
      | cons a rest => by_cases ha : a = 'L' <;> simp [ha]

lemma numberEnd_suffix (read : List Char) : (numberEnd d read cs).2 <:+ cs := by
  unfold numberEnd
  split
  · exact List.suffix_refl _
  · dsimp only
    generalize hrest : (if (!(exponentMark cs).1.isEmpty &&
      !(digits (exponentMark cs).2).1.isEmpty) = true then (digits (exponentMark cs).2).2 else cs) =
        rest
    have hsuffix : rest <:+ cs := by
      rw [← hrest]
      split
      · exact (List.dropWhile_suffix _).trans (exponentMark_suffix cs)
      · exact List.suffix_refl _
    generalize (if (!(exponentMark cs).1.isEmpty && !(digits (exponentMark cs).2).1.isEmpty) = true
      then read ++ (exponentMark cs).1 ++ (digits (exponentMark cs).2).1 else read) = value
    split
    · exact (List.dropWhile_suffix _).trans hsuffix
    · split
      · exact (List.suffix_cons _ _).trans hsuffix
      · exact hsuffix

variable {d cs} {whole rest : List Char}

lemma number_hex (h : digits cs = (['0'], 'x' :: rest)) : number d cs =
    (.string .hex (String.ofList (rest.takeWhile isHexDigit)), rest.dropWhile isHexDigit) := by
  rw [number, h]
  rfl

lemma number_decimal (h : digits cs = (whole, '.' :: rest)) :
    number d cs = numberEnd d (whole ++ ['.'] ++ (digits rest).1) (digits rest).2 := by
  unfold number
  rw [h]
  dsimp only
  split
  · next heq => cases heq
  · rfl

lemma number_whole (h : digits cs = (whole, rest)) (hhex : whole = ['0'] → rest.head? ≠ some 'x')
    (hperiod : rest.head? ≠ some '.') :
    number d cs = numberEnd d (whole ++ [] ++ (digits rest).1) (digits rest).2 := by
  unfold number
  rw [h]
  dsimp only
  split
  · exact absurd rfl (hhex rfl)
  · split
    · exact absurd rfl hperiod
    · rfl

variable (d cs)

lemma exists_of_head? {rest : List Char} {c : Char} (h : rest.head? = some c) :
    ∃ tail, rest = c :: tail := ⟨_, List.eq_cons_of_mem_head? h⟩

lemma number_closed : number d (cs ++ ')' :: more) =
    ((number d cs).1, (number d cs).2 ++ ')' :: more) := by
  have hclosed := digits_closed cs more
  obtain ⟨whole, rest, hread⟩ : ∃ whole rest, digits cs = (whole, rest) := ⟨_, _, rfl⟩
  rw [hread] at hclosed
  dsimp only at hclosed
  by_cases hhex : whole = ['0'] ∧ rest.head? = some 'x'
  · obtain ⟨rfl, hx⟩ := hhex
    obtain ⟨tail, rfl⟩ := exists_of_head? hx
    have hparen : isHexDigit ')' = false := by decide
    rw [List.cons_append] at hclosed
    rw [number_hex hread, number_hex hclosed, takeWhile_closed hparen, dropWhile_closed hparen]
  · by_cases hperiod : rest.head? = some '.'
    · obtain ⟨tail, rfl⟩ := exists_of_head? hperiod
      rw [List.cons_append] at hclosed
      rw [number_decimal hread, number_decimal hclosed, digits_closed, numberEnd_closed]
    · have hother : ∀ c : Char, c ≠ ')' → rest.head? ≠ some c → (rest ++ ')' :: more).head? ≠ some c := by
        intro c hc hrest
        cases rest with
        | nil => simpa using hc.symm
        | cons a rest => exact hrest
      rw [number_whole hread (fun hw hx => hhex ⟨hw, hx⟩) hperiod,
        number_whole hclosed (fun hw => hother 'x' (by decide) fun hx => hhex ⟨hw, hx⟩)
          (hother '.' (by decide) hperiod), digits_closed, numberEnd_closed]

/-- A number takes at least the character that it starts with. -/
lemma number_suffix {c : Char} (hc : c.isDigit = true ∨ c = '.') :
    (number d (c :: cs)).2 <:+ cs := by
  obtain ⟨whole, rest, hread⟩ : ∃ whole rest, digits (c :: cs) = (whole, rest) := ⟨_, _, rfl⟩
  have hrest : (c :: cs).dropWhile Char.isDigit = rest := congrArg Prod.snd hread
  have hshort : rest = c :: cs ∧ c = '.' ∨ rest <:+ cs := by
    cases hdigit : c.isDigit with
    | true =>
      refine .inr ?_
      rw [← hrest, List.dropWhile_cons_of_pos hdigit]
      exact List.dropWhile_suffix _
    | false =>
      refine .inl ⟨?_, hc.resolve_left (by simp [hdigit])⟩
      rw [← hrest, List.dropWhile_cons_of_neg (by simp [hdigit])]
  by_cases hhex : whole = ['0'] ∧ rest.head? = some 'x'
  · obtain ⟨rfl, hx⟩ := hhex
    obtain ⟨tail, rfl⟩ := exists_of_head? hx
    rw [number_hex hread]
    have hsuffix : 'x' :: tail <:+ cs := hshort.resolve_left (by rintro ⟨h, rfl⟩; cases h)
    exact (List.dropWhile_suffix _).trans ((List.suffix_cons _ _).trans hsuffix)
  · by_cases hperiod : rest.head? = some '.'
    · obtain ⟨tail, rfl⟩ := exists_of_head? hperiod
      rw [number_decimal hread]
      have htail : tail <:+ cs := by
        rcases hshort with ⟨h, -⟩ | h
        · exact (List.cons.inj h).2 ▸ List.suffix_refl _
        · exact (List.suffix_cons _ _).trans h
      exact (numberEnd_suffix d _ _).trans ((List.dropWhile_suffix _).trans htail)
    · rw [number_whole hread (fun hw hx => hhex ⟨hw, hx⟩) hperiod]
      have hsuffix : rest <:+ cs := hshort.resolve_left (by rintro ⟨rfl, rfl⟩; exact hperiod rfl)
      exact (numberEnd_suffix d _ _).trans ((List.dropWhile_suffix _).trans hsuffix)

end Numbers

section Literals

lemma stringBody?_suffix {quote : Char} {escapes : Bool} : (text body rest : List Char) →
    stringBody? quote escapes text = some (body, rest) → rest <:+ text
  | [], _, _, h => nomatch h
  | [c], body, rest, h => by
    rw [stringBody?] at h
    split at h
    · obtain ⟨-, rfl⟩ := Prod.mk.inj (Option.some.inj h)
      exact List.nil_suffix
    · cases h
  | c :: a :: text, body, rest, h => by
    have hskip : text <:+ c :: a :: text := (List.suffix_cons _ _).trans (List.suffix_cons _ _)
    rw [stringBody?] at h
    split at h
    · split at h
      · obtain ⟨inner, hinner, -⟩ := map_before_eq_some.1 h
        exact (stringBody?_suffix text inner rest hinner).trans hskip
      · obtain ⟨-, rfl⟩ := Prod.mk.inj (Option.some.inj h)
        exact List.suffix_cons _ _
    · split at h
      · obtain ⟨inner, hinner, -⟩ := map_before_eq_some.1 h
        exact (stringBody?_suffix text inner rest hinner).trans hskip
      · obtain ⟨inner, hinner, -⟩ := map_before_eq_some.1 h
        exact (stringBody?_suffix (a :: text) inner rest hinner).trans (List.suffix_cons _ _)

lemma stringBody?_closed {quote : Char} (hquote : quote ≠ ')') {escapes : Bool}
    {text body rest : List Char} (h : stringBody? quote escapes text = some (body, rest))
    (more : List Char) :
    stringBody? quote escapes (text ++ ')' :: more) = some (body, rest ++ ')' :: more) :=
  stringBody?_append (fun c hc => by
    obtain rfl := Option.some.inj hc
    exact hquote.symm) text h

lemma token_of_stringLiteral {kind : StringKind} {quote : Char} {escapes : Bool}
    {text rest : List Char} {x : Lexeme} (h : stringLiteral kind quote escapes text = .ok (x, rest)) :
    ∃ body, x = .token (.string kind body) := by
  unfold stringLiteral at h
  split at h
  · cases h
    exact ⟨_, rfl⟩
  · cases h

lemma token_of_rawString {kind tripled : StringKind} {quote : Char}
    {text rest : List Char} {x : Lexeme} (h : rawString kind tripled quote text = .ok (x, rest)) :
    ∃ body, x = .token (.string kind body) ∨ x = .token (.string tripled body) := by
  unfold rawString at h
  dsimp only at h
  split at h
  · next k body left hbody =>
    cases h
    split at hbody
    · obtain ⟨_, -, hk⟩ := Option.map_eq_some_iff.1 hbody
      obtain ⟨rfl, -⟩ := Prod.mk.inj hk
      exact ⟨_, .inl rfl⟩
    · obtain ⟨rfl, -⟩ := Prod.mk.inj (Option.some.inj hbody)
      exact ⟨_, .inl rfl⟩
    · obtain ⟨_, -, hk⟩ := Option.map_eq_some_iff.1 hbody
      obtain ⟨rfl, -⟩ := Prod.mk.inj hk
      exact ⟨_, .inr rfl⟩
  · cases h

variable {d : Dialect}

lemma token_of_prefixed? {text rest : List Char} {literal : Step} {x : Lexeme}
    (h : prefixed? d text = some literal) (hx : literal = .ok (x, rest)) :
    ∃ kind body, x = .token (.string kind body) ∧ kind ≠ .single := by
  have hplain : ∀ {kind quote escapes text}, stringLiteral kind quote escapes text = .ok (x, rest) →
      kind ≠ .single → ∃ kind body, x = .token (.string kind body) ∧ kind ≠ .single :=
    fun h hkind => (token_of_stringLiteral h).elim fun body hbody => ⟨_, body, hbody, hkind⟩
  have hraw : ∀ {kind tripled quote text}, rawString kind tripled quote text = .ok (x, rest) →
      kind ≠ .single → tripled ≠ .single → ∃ kind body, x = .token (.string kind body) ∧ kind ≠ .single :=
    fun h hkind htripled => (token_of_rawString h).elim fun body hbody =>
      hbody.elim (fun hbody => ⟨_, body, hbody, hkind⟩) fun hbody => ⟨_, body, hbody, htripled⟩
  unfold prefixed? at h
  split at h
  · dsimp only at h
    split at h
    · split at h
      · obtain rfl := Option.some.inj h
        exact hplain hx nofun
      · cases h
    · split at h
      · obtain rfl := Option.some.inj h
        exact hraw hx nofun nofun
      · cases h
    · obtain rfl := Option.some.inj h
      exact hplain hx nofun
    · obtain rfl := Option.some.inj h
      unfold escapeString at hx
      split at hx
      · cases hx
        exact ⟨_, _, rfl, nofun⟩
      · cases hx
    · obtain rfl := Option.some.inj h
      exact hplain hx nofun
    · cases h
  · dsimp only at h
    split at h
    · split at h
      · obtain rfl := Option.some.inj h
        exact hplain hx nofun
      · cases h
    · split at h
      · obtain rfl := Option.some.inj h
        exact hraw hx nofun nofun
      · cases h
    · cases h
  · split at h
    · obtain rfl := Option.some.inj h
      rw [unicodeString] at hx
      cases hbody : unicodeBody _ 0 with
      | error e =>
        rw [hbody] at hx
        cases hx
      | ok read =>
        rw [hbody] at hx
        cases hx
        exact ⟨_, _, rfl, nofun⟩
    · cases h
  · cases h

lemma prefixed?_closed {c : Char} {cs : List Char} (h : prefixed? d (c :: cs) = none)
    (more : List Char) : prefixed? d (c :: cs ++ ')' :: more) = none := by
  cases cs with
  | nil =>
    refine prefixed?_eq_none d c fun q hq => ?_
    obtain rfl := Option.some.inj hq
    decide
  | cons q cs =>
    by_cases hsingle : q = '\''
    · subst hsingle
      simp only [prefixed?, List.cons_append] at h ⊢
      split at h <;> simp_all
    · by_cases hdouble : q = '"'
      · subst hdouble
        simp only [prefixed?, List.cons_append] at h ⊢
        split at h <;> simp_all
      · cases cs <;> unfold prefixed? at h ⊢ <;> split <;> simp_all

end Literals

section Quotes

lemma readsOn_stringLiteral {quote : Char} (hquote : quote ≠ ')') (escapes : Bool)
    (cs : List Char) :
    ReadsOn (fun cs => stringLiteral .single quote escapes (quote :: cs)) cs := by
  rintro t rest h -
  simp only [stringLiteral, List.tail_cons] at h ⊢
  split at h
  · next body left hbody =>
    obtain ⟨rfl, rfl⟩ := token_inj h
    exact ⟨stringBody?_suffix _ _ _ hbody, fun more => by rw [stringBody?_closed hquote hbody]⟩
  · cases h

lemma readsOn_quotedName {opening : Char} (hclosing : closingQuote opening ≠ ')')
    (cs : List Char) : ReadsOn (fun cs => quotedName opening (opening :: cs)) cs := by
  rintro t rest h -
  simp only [quotedName, List.tail_cons] at h ⊢
  split at h
  · next body left hbody =>
    obtain ⟨rfl, rfl⟩ := token_inj h
    exact ⟨stringBody?_suffix _ _ _ hbody, fun more => by rw [stringBody?_closed hclosing hbody]⟩
  · cases h

lemma readsOn_number (d : Dialect) {c : Char} (hc : c.isDigit = true ∨ c = '.')
    (cs : List Char) :
    ReadsOn (fun cs => .ok (.token (number d (c :: cs)).1, (number d (c :: cs)).2)) cs := by
  rintro t rest h -
  obtain ⟨rfl, rfl⟩ := token_inj h
  refine ⟨number_suffix d cs hc, fun more => ?_⟩
  have hclosed := number_closed d (c :: cs) more
  rw [List.cons_append] at hclosed
  simp only [hclosed]

lemma token_of_dollarToken {text rest : List Char} {x : Lexeme}
    (h : dollarToken text = .ok (x, rest)) : ∃ t, x = .token t ∧ t.isPlain = false := by
  unfold dollarToken at h
  dsimp only at h
  split at h
  · split at h
    · cases h
      exact ⟨_, rfl, rfl⟩
    · cases h
  · split at h
    · split at h
      · cases h
        exact ⟨_, rfl, rfl⟩
      · cases h
    · cases h
      exact ⟨_, rfl, rfl⟩

end Quotes

section Gaps

variable {d : Dialect}

/-- How comments begin. -/
def commentMarks : List String := ["--", "/*", "#"]

lemma operator_ne_gap {s : Symbol} {cs rest : List Char} {g : String} :
    operator d s cs ≠ .ok (.gap g, rest) := by
  unfold operator
  dsimp only
  split <;> exact nofun

lemma wordFrom_ne_gap {start cs rest : List Char} {g : String} :
    wordFrom d start cs ≠ .ok (.gap g, rest) := by
  unfold wordFrom
  dsimp only
  split <;> exact nofun

lemma mark_of_operator? {c : Char} {read : List Char → Step} {cs rest : List Char} {g : String}
    (h : operator? d c = some read) (hg : read cs = .ok (.gap g, rest)) :
    ∃ mark ∈ commentMarks, mark.toList <+: c :: cs ∧ mark.toList <+: g.toList := by
  unfold operator? at h
  split at h <;> cases h
  · unfold dash at hg
    split at hg
    · cases hg
      exact ⟨"--", by decide, ⟨_, rfl⟩, by simp⟩
    all_goals exact absurd hg operator_ne_gap
  · unfold slash at hg
    split at hg
    · unfold blockComment at hg
      split at hg
      · cases hg
        exact ⟨"/*", by decide, ⟨_, rfl⟩, by simp⟩
      · cases hg
    · split at hg <;> cases hg
    · cases hg
  · unfold percent at hg
    split at hg
    · split at hg
      · cases hg
      · exact absurd hg operator_ne_gap
    · cases hg
  · unfold bar at hg
    split at hg <;> exact absurd hg operator_ne_gap
  · unfold equals at hg
    split at hg <;> cases hg
  · unfold bang at hg
    split at hg <;> cases hg
  · unfold less at hg
    split at hg <;> exact absurd hg operator_ne_gap
  · unfold greater at hg
    split at hg <;> exact absurd hg operator_ne_gap
  · unfold colons at hg
    split at hg <;> cases hg
  · unfold ampersand at hg
    split at hg <;> exact absurd hg operator_ne_gap
  · unfold caret at hg
    split at hg <;> cases hg
  · unfold tilde at hg
    split at hg <;> exact absurd hg operator_ne_gap
  · unfold hash at hg
    split at hg
    · cases hg
      exact ⟨"#", by decide, ⟨_, rfl⟩, by simp⟩
    · split at hg
      · exact absurd hg operator_ne_gap
      · exact absurd hg operator_ne_gap
      · exact absurd hg operator_ne_gap
      · cases hg
      · split at hg
        · exact absurd hg wordFrom_ne_gap
        · exact absurd hg operator_ne_gap
      · cases hg
  · unfold atChar at hg
    split at hg <;> first | cases hg | (split at hg <;> cases hg)
  · unfold questionMark at hg
    split at hg
    · split at hg <;> cases hg
    · cases hg

end Gaps

section Steps

variable {d : Dialect} {c : Char} {cs rest : List Char} {x : Lexeme}

/-- What is read first is read first before a closing parenthesis, too. -/
def Closes (d : Dialect) (c : Char) (cs : List Char) (x : Lexeme) (rest : List Char) : Prop :=
  rest <:+ cs ∧
    ∀ more, step d (c :: (cs ++ ')' :: more)) = .ok (x, rest ++ ')' :: more)

lemma ReadsOn.closes {read : List Char → Step} (h : ReadsOn read cs)
    (hstep : ∀ more, step d (c :: (cs ++ ')' :: more)) = read (cs ++ ')' :: more)) {t : Token}
    (hread : read cs = .ok (.token t, rest)) (ht : t.isPlain = true) :
    Closes d c cs (.token t) rest := by
  obtain ⟨hrest, hclosed⟩ := h t rest hread ht
  exact ⟨hrest, fun more => (hstep more).trans (hclosed more)⟩

lemma step_return {cs : List Char} (h : ∀ tail, cs ≠ '\n' :: tail) :
    step d ('\r' :: cs) = gap "\n" cs := by
  unfold step
  split
  · next heq => cases heq
  · next heq => exact absurd (List.cons.inj heq).2 (h _)
  · next heq =>
    obtain ⟨rfl, rfl⟩ := List.cons.inj heq
    simp

lemma closes_blank (hc : c ∈ ['\n', '\r', '\t', ' ']) (h : step d (c :: cs) = .ok (x, rest)) :
    Closes d c cs x rest := by
  have hstep : ∀ (b : Char) (g : String), (∀ cs, step d (b :: cs) = gap g cs) →
      step d (b :: cs) = .ok (x, rest) → Closes d b cs x rest := by
    intro b g hb h
    rw [hb cs] at h
    cases h
    exact ⟨List.suffix_refl _, fun more => hb _⟩
  simp only [List.mem_cons, List.not_mem_nil, or_false] at hc
  rcases hc with rfl | rfl | rfl | rfl
  · exact hstep '\n' "\n" (fun cs => by simp [step]) h
  · by_cases hline : ∃ tail, cs = '\n' :: tail
    · obtain ⟨tail, rfl⟩ := hline
      cases h
      exact ⟨List.suffix_cons _ _, fun more => rfl⟩
    · rw [step_return fun tail htail => hline ⟨tail, htail⟩] at h
      cases h
      refine ⟨List.suffix_refl _, fun more => step_return fun tail htail => ?_⟩
      obtain ⟨cs', hcs, -⟩ := exists_of_closed_eq_cons htail (by decide)
      exact hline ⟨cs', hcs⟩
  · exact hstep '\t' "\t" (fun cs => by simp [step]) h
  · exact hstep ' ' " " (fun cs => step_blank d cs) h

lemma step_prefixed {literal : Step} (hblank : c ∉ ['\n', '\r', '\t', ' '])
    (h : prefixed? d (c :: cs) = some literal) : step d (c :: cs) = literal := by
  simp only [List.mem_cons, List.not_mem_nil, not_or, or_false] at hblank
  unfold step
  split
  · next heq => cases heq
  · next heq => exact absurd (List.cons.inj heq).1 hblank.2.1
  · next heq =>
    obtain ⟨rfl, rfl⟩ := List.cons.inj heq
    simp [hblank, h]

/-- Unless it is a comment, what is read first is read first before a closing parenthesis. -/
lemma step_closed (h : step d (c :: cs) = .ok (x, rest)) (hx : ∀ t, x = .token t → t.isPlain = true) :
    Closes d c cs x rest ∨ ∃ g, x = .gap g ∧
      ∃ mark ∈ commentMarks, mark.toList <+: c :: cs ∧ mark.toList <+: g.toList := by
  by_cases hblank : c ∈ ['\n', '\r', '\t', ' ']
  · exact .inl (closes_blank hblank h)
  cases hprefixed : prefixed? d (c :: cs) with
  | some literal =>
    have hstep := step_prefixed hblank hprefixed
    obtain ⟨kind, body, rfl, hkind⟩ := token_of_prefixed? hprefixed (hstep.symm.trans h)
    have hplain := hx _ rfl
    cases kind <;> first | exact absurd rfl hkind | cases hplain
  | none =>
    have hclosed := fun more => step_cons d hblank (prefixed?_closed hprefixed more)
    rw [step_cons d hblank hprefixed] at h
    -- From here on both texts take the same branch: the first character settles it.
    have htoken : ∀ {read : List Char → Step}, ReadsOn read cs →
        (∀ more, step d (c :: (cs ++ ')' :: more)) = read (cs ++ ')' :: more)) →
          read cs = .ok (x, rest) → (∀ g, x ≠ .gap g) → Closes d c cs x rest := by
      intro read hread hstep h hgap
      cases x with
      | token t => exact hread.closes hstep h (hx t rfl)
      | gap g => exact absurd rfl (hgap g)
    by_cases hopens : opensLiteral d c = true
    · simp only [if_pos hopens] at h hclosed
      exact .inl (htoken (readsOn_plainWord d c cs) hclosed h (by rintro g rfl; cases h))
    simp only [if_neg hopens] at h hclosed
    by_cases hsingle : c = '\''
    · simp only [if_pos hsingle] at h hclosed
      obtain ⟨body, rfl⟩ := token_of_stringLiteral h
      refine .inl (htoken (readsOn_stringLiteral ?_ _ cs) hclosed h nofun)
      rw [hsingle]
      decide
    simp only [if_neg hsingle] at h hclosed
    by_cases hdouble : (c = '"' && !d.quotesName c) = true
    · rw [if_pos hdouble] at h
      obtain ⟨body, rfl⟩ := token_of_stringLiteral h
      cases hx _ rfl
    simp only [if_neg hdouble] at h hclosed
    by_cases hname : d.quotesName c = true
    · simp only [if_pos hname] at h hclosed
      refine .inl (htoken (readsOn_quotedName ?_ cs) hclosed h ?_)
      · intro hparen
        have hmem := closingQuote_mem hname
        rw [hparen] at hmem
        exact absurd hmem (by decide)
      · rintro g rfl
        unfold quotedName at h
        split at h <;> cases h
    simp only [if_neg hname] at h hclosed
    by_cases hdigit : (c.isDigit || decide (c = '.')) = true
    · simp only [if_pos hdigit] at h hclosed
      exact .inl (htoken (readsOn_number d (by simpa using hdigit) cs) hclosed h
        (by rintro g rfl; cases h))
    simp only [if_neg hdigit] at h hclosed
    cases hsign : punctuation? c with
    | some s =>
      simp only [hsign] at h hclosed
      exact .inl (htoken (readsOn_sign s cs) hclosed h (by rintro g rfl; cases h))
    | none =>
      cases hoperator : operator? d c with
      | some read =>
        simp only [hsign, hoperator] at h hclosed
        cases x with
        | token t => exact .inl (htoken (readsOn_operator? d hoperator cs) hclosed h nofun)
        | gap g => exact .inr ⟨g, rfl, mark_of_operator? hoperator h⟩
      | none =>
        simp only [hsign, hoperator] at h hclosed
        by_cases hword : d.startsWord c = true
        · simp only [if_pos hword] at h hclosed
          exact .inl (htoken (readsOn_wordFrom d [c] cs) hclosed h
            (by rintro g rfl; exact wordFrom_ne_gap h))
        simp only [if_neg hword] at h hclosed
        by_cases hdollar : c = '$'
        · rw [if_pos hdollar] at h
          obtain ⟨t, rfl, ht⟩ := token_of_dollarToken h
          exact absurd (hx t rfl) (by simp [ht])
        simp only [if_neg hdollar] at h hclosed
        by_cases hother : Text.isBlank c = true
        · simp only [if_pos hother] at h hclosed
          cases h
          exact .inl ⟨List.suffix_refl _, hclosed⟩
        · rw [if_neg hother] at h
          cases h
          cases hx _ rfl

end Steps

section Texts

variable {d : Dialect}

lemma tokensFrom_nil {fuel : Nat} {place : Position} {gaps : List String}
    {read : Array PlacedToken} : tokensFrom d fuel place gaps [] read =
      .ok (read.push ⟨.ending, .ending, gaps.reverse⟩) := by
  cases fuel <;> rfl

lemma tokensFrom_extends {fuel : Nat} {place : Position} {gaps : List String} {text : List Char}
    {read found : Array PlacedToken} (h : tokensFrom d fuel place gaps text read = .ok found) :
    ∃ (p : PlacedToken) (new : List PlacedToken), found.toList = read.toList ++ p :: new ∧
      ∀ g ∈ gaps, ∃ q ∈ p :: new, g ∈ q.gaps := by
  induction fuel generalizing place gaps text read with
  | zero =>
    cases h
    exact ⟨⟨.ending, .ending, gaps.reverse⟩, [], by simp, by simp⟩
  | succ fuel ih =>
    cases text with
    | nil =>
      cases h
      exact ⟨⟨.ending, .ending, gaps.reverse⟩, [], by simp, by simp⟩
    | cons c text =>
      rw [tokensFrom] at h
      · split at h
        · cases h
        · next t rest hstep =>
          obtain ⟨p, new, hfound, -⟩ := ih h
          refine ⟨⟨t, place, gaps.reverse⟩, p :: new, by simp [hfound], fun g hg => ?_⟩
          exact ⟨_, List.mem_cons_self, List.mem_reverse.2 hg⟩
        · next g rest hstep =>
          obtain ⟨p, new, hfound, hgaps⟩ := ih h
          exact ⟨p, new, hfound, fun g hg => hgaps g (List.mem_cons_of_mem _ hg)⟩
      · exact List.cons_ne_nil c text

def Lacks (mark : String) (found : Array PlacedToken) : Prop :=
  ∀ p ∈ found.toList, ∀ g ∈ p.gaps, ¬ mark.toList <+: g.toList

/-- Only a comment could hide the parenthesis: the rest of the text is split as if it ended there. -/
lemma splits_closed {fuel : Nat} {place : Position} {gaps : List String} {text : List Char}
    {read found : Array PlacedToken} {ts : List Token} (enough : text.length ≤ fuel)
    (h : tokensFrom d fuel place gaps text read = .ok found)
    (htokens : found.toList.map (·.token) = read.toList.map (·.token) ++ (ts ++ [Token.ending]))
    (hplain : ∀ t ∈ ts, t.isPlain = true)
    (hlacks : ∀ mark ∈ commentMarks, mark.toList <:+: text → Lacks mark found)
    {more : List Char} {us : List Token} (hmore : Splits d (')' :: more) us) :
    Splits d (text ++ ')' :: more) (ts ++ us) := by
  -- What is left of the text at each step is an end of it, so a mark that does not occur in the text
  -- does not occur there.
  induction fuel generalizing place gaps text read ts with
  | zero =>
    obtain rfl := List.length_eq_zero_iff.1 (Nat.le_zero.1 enough)
    cases h
    obtain rfl : ts = [] := by simpa using htokens
    exact hmore
  | succ fuel ih =>
    cases text with
    | nil =>
      cases h
      obtain rfl : ts = [] := by simpa using htokens
      exact hmore
    | cons c text =>
      have hshorter : ∀ {rest : List Char}, rest <:+ text →
          rest.length ≤ fuel ∧ (rest ++ ')' :: more).length < (c :: text ++ ')' :: more).length := by
        intro rest hrest
        have hlength := hrest.length_le
        simp only [List.length_append, List.length_cons] at enough ⊢
        omega
      have hrest : ∀ {rest : List Char}, rest <:+ text →
          ∀ mark ∈ commentMarks, mark.toList <:+: rest → Lacks mark found :=
        fun hrest mark hmark hoccurs => hlacks mark hmark
          (hoccurs.trans (hrest.trans (List.suffix_cons c text)).isInfix)
      rw [tokensFrom] at h
      · split at h
        · cases h
        · next t rest hstep =>
          obtain ⟨p, new, hfound, -⟩ := tokensFrom_extends h
          rw [hfound] at htokens
          obtain ⟨vs, rfl⟩ : ∃ vs, ts = t :: vs := by
            cases ts with
            | nil => simp at htokens
            | cons t' vs => exact ⟨vs, by simp at htokens; rw [htokens.1]⟩
          rcases step_closed hstep (by rintro _ ⟨⟩; exact hplain t List.mem_cons_self) with
            ⟨hsuffix, hclosed⟩ | ⟨g, hg, -⟩
          · refine .token (hclosed more) (hshorter hsuffix).2 (ih (hshorter hsuffix).1 h ?_
              (fun u hu => hplain u (List.mem_cons_of_mem t hu)) (hrest hsuffix))
            simpa [hfound] using htokens
          · cases hg
        · next g rest hstep =>
          rcases step_closed hstep (fun t ht => by cases ht) with
            ⟨hsuffix, hclosed⟩ | ⟨g, hg, mark, hmark, htext, hgap⟩
          · exact .gap (hclosed more) (hshorter hsuffix).2
              (ih (hshorter hsuffix).1 h htokens hplain (hrest hsuffix))
          · -- A comment stays among the gaps of a later token.
            cases hg
            obtain ⟨p, new, hfound, hgaps⟩ := tokensFrom_extends h
            obtain ⟨q, hq, hmem⟩ := hgaps g List.mem_cons_self
            exact absurd hgap (hlacks mark hmark htext.isInfix q
              (by rw [hfound]; exact List.mem_append_right _ hq) g hmem)
      · exact List.cons_ne_nil c text

structure SplitsPlainly (d : Dialect) (text : String) (ts : List Token) : Prop where
  plain : ∀ t ∈ ts, t.isPlain = true
  split : ∃ found, tokens d text = .ok found ∧ found.toList.map (·.token) = ts ++ [.ending] ∧
    ∀ mark ∈ commentMarks, mark.toList <:+: text.toList → Lacks mark found

lemma SplitsPlainly.closed {text : String} {ts us : List Token} (h : SplitsPlainly d text ts)
    {more : List Char} (hmore : Splits d (')' :: more) us) :
    Splits d (text.toList ++ ')' :: more) (ts ++ us) := by
  obtain ⟨found, hfound, htokens, hlacks⟩ := h.split
  exact splits_closed (Nat.le_refl _) hfound (by simpa using htokens) h.plain hlacks hmore

end Texts

end RowFence.Sql.Lexer
