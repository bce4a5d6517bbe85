import RowFence.Proofs.Sql.Splitting

/-! Texts put together from words, signs, names and literals, and the tokens that they are split
into. -/

namespace RowFence.Sql

/-- The tokens of a name: its parts, and periods between them. -/
def Name.tokens : Name → List Token
  | [] => []
  | [i] => [.word i.word]
  | i :: j :: n => .word i.word :: .symbol .period :: Name.tokens (j :: n)

/-- A word in capitals, as the printer writes keywords. -/
def Token.keyword (w : String) : Token := .word ⟨w, none, w⟩

namespace Lexer

/-- Before whatever ends a word, a text is split into these tokens. -/
def SplitsInto (d : Dialect) (text : String) (ts : List Token) : Prop :=
  ∀ rest us, Stops rest → Splits d rest us → Splits d (text.toList ++ rest) (ts ++ us)

/-- Before anything, a text is split into these tokens. -/
def Opens (d : Dialect) (text : String) (ts : List Token) : Prop :=
  ∀ rest us, Splits d rest us → Splits d (text.toList ++ rest) (ts ++ us)

def StartsWithStop (text : String) : Prop := Stops text.toList

instance (text : String) : Decidable (StartsWithStop text) :=
  decidable_of_iff (text.toList.head?.all isStop = true) (by
    rw [StartsWithStop, Stops]
    cases text.toList.head? <;> simp)

variable {d : Dialect}

section Composition

variable {a b : String} {ts us : List Token}

lemma Opens.splitsInto (h : Opens d a ts) : SplitsInto d a ts := fun rest us _ => h rest us

lemma SplitsInto.append (ha : SplitsInto d a ts) (hb : SplitsInto d b us)
    (hstop : StartsWithStop b) : SplitsInto d (a ++ b) (ts ++ us) := by
  intro rest vs hrest h
  rw [String.toList_append, List.append_assoc, List.append_assoc]
  refine ha _ _ ?_ (hb rest vs hrest h)
  cases hb : b.toList with
  | nil => exact hrest
  | cons c cs =>
    have hc := hstop c (by rw [hb]; rfl)
    intro c' hc'
    obtain rfl := Option.some.inj hc'
    exact hc

lemma Opens.append (ha : Opens d a ts) (hb : SplitsInto d b us) :
    SplitsInto d (a ++ b) (ts ++ us) := by
  intro rest vs hrest h
  rw [String.toList_append, List.append_assoc, List.append_assoc]
  exact ha _ _ (hb rest vs hrest h)

lemma Opens.opens (ha : Opens d a ts) (hb : Opens d b us) : Opens d (a ++ b) (ts ++ us) := by
  intro rest vs h
  rw [String.toList_append, List.append_assoc, List.append_assoc]
  exact ha _ _ (hb rest vs h)

lemma splits_of_splitsInto (h : SplitsInto d a ts) : Splits d a.toList ts := by
  have hall := h [] [] (fun _ hc => nomatch hc) .nil
  rwa [List.append_nil, List.append_nil] at hall

lemma splitsInto_empty : SplitsInto d "" [] := fun _ _ _ h => h

end Composition

section Lexemes

lemma Splits.ident {i : Ident} (hi : RereadsName d i) {rest : List Char} {us : List Token}
    (hrest : NameStops rest) (h : Splits d rest us) :
    Splits d (i.spelling.toList ++ rest) (.word i.word :: us) := by
  cases hquote : i.quote with
  | some quote =>
    have hstep := step_quotedName d hquote hi hrest
    have hword : i.word = .quoted i.value quote := by rw [Ident.word, hquote]
    rw [hword]
    refine .token hstep ?_ h
    rw [Ident.toList_spelling_of_quote hquote]
    simp only [List.length_append, List.length_cons]
    omega
  | none =>
    have hword : i.word = .plain i.value := by rw [Ident.word, hquote]
    have hspelling : i.spelling = i.value := by rw [Ident.spelling, hquote]
    simp only [RereadsName, hquote, isPlainIdentifier] at hi
    rw [hword, hspelling]
    cases hvalue : i.value.toList with
    | nil =>
      rw [hvalue] at hi
      cases hi
    | cons c cs =>
      rw [hvalue] at hi
      obtain ⟨hc, hcs⟩ := Bool.and_eq_true_iff.1 hi
      have hstep := @step_word d c hc cs rest hcs hrest
      rw [← hvalue, String.ofList_toList, hvalue] at hstep
      refine .token hstep ?_ h
      simp only [List.length_append, List.length_cons]
      omega

lemma splitsInto_ident {i : Ident} (hi : RereadsName d i) :
    SplitsInto d i.spelling [.word i.word] :=
  fun _ _ hrest h => .ident hi hrest.nameStops h

/-- No part of a name starts with a digit, which would make a number of a period before it. -/
lemma not_isDigit_of_rereadsName {i : Ident} (hi : RereadsName d i) :
    ∃ c cs, i.spelling.toList = c :: cs ∧ c.isDigit = false := by
  cases hquote : i.quote with
  | some quote =>
    simp only [RereadsName, hquote] at hi
    refine ⟨quote, _, Ident.toList_spelling_of_quote hquote, ?_⟩
    have hthree := quotesName_facts hi.1
    simp only [List.mem_cons, List.not_mem_nil, or_false] at hthree
    rcases hthree with rfl | rfl | rfl <;> decide
  | none =>
    have hspelling : i.spelling = i.value := by rw [Ident.spelling, hquote]
    simp only [RereadsName, hquote, isPlainIdentifier] at hi
    rw [hspelling]
    cases hvalue : i.value.toList with
    | nil =>
      rw [hvalue] at hi
      cases hi
    | cons c cs =>
      rw [hvalue] at hi
      exact ⟨c, cs, rfl, (beginsWord_of_isWordStart d (Bool.and_eq_true_iff.1 hi).1).2.2.1⟩

lemma Splits.name {rest : List Char} {us : List Token} (hrest : NameStops rest)
    (hsplits : Splits d rest us) : {n : Name} → (∀ i ∈ n, RereadsName d i) →
    Splits d ((Name.spelling n).toList ++ rest) (Name.tokens n ++ us)
  | [], _ => hsplits
  | [i], h => .ident (h i List.mem_cons_self) hrest hsplits
  | i :: j :: n, h => by
    have hothers := Splits.name hrest hsplits (n := j :: n) fun k hk =>
      h k (List.mem_cons_of_mem i hk)
    have hspelling : (Name.spelling (i :: j :: n)).toList =
        i.spelling.toList ++ '.' :: (Name.spelling (j :: n)).toList := by
      simp [Name.spelling, String.intercalate_cons_cons]
    obtain ⟨c, cs, hc, hdigit⟩ := not_isDigit_of_rereadsName (h j (by simp))
    have hperiod : step d ('.' :: ((Name.spelling (j :: n)).toList ++ rest)) =
        .ok (.token (.symbol .period), (Name.spelling (j :: n)).toList ++ rest) := by
      refine step_period d fun c' hc' => ?_
      have hhead : ∃ tail, (Name.spelling (j :: n)).toList = c :: tail := by
        cases n with
        | nil => exact ⟨cs, by simpa [Name.spelling] using hc⟩
        | cons k n => exact ⟨_, by rw [Name.spelling, List.map_cons, List.map_cons,
            String.intercalate_cons_cons, String.toList_append, String.toList_append, hc]; rfl⟩
      obtain ⟨tail, htail⟩ := hhead
      rw [htail] at hc'
      obtain rfl := Option.some.inj hc'
      exact hdigit
    rw [hspelling, List.append_assoc, List.cons_append]
    refine .ident (h i List.mem_cons_self) (fun c hc => .inr (Option.some.inj hc).symm) ?_
    exact .token hperiod (by simp) hothers

lemma splitsInto_name {n : Name} (h : ∀ i ∈ n, RereadsName d i) :
    SplitsInto d (Name.spelling n) (Name.tokens n) :=
  fun _ _ hrest hsplits => .name hrest.nameStops hsplits h

lemma splitsInto_numeral {digits : String} (h : IsNumeral digits.toList) :
    SplitsInto d digits [.number digits false] := by
  intro rest us hrest hsplits
  have hstep := step_numeral d h hrest
  rw [String.ofList_toList] at hstep
  refine .token hstep ?_ hsplits
  have hnonempty := List.length_pos_iff.2 h.ne_nil
  rw [List.length_append]
  omega

lemma splitsInto_string {body : String} (h : Rereads d body) :
    SplitsInto d (Literal.single body) [.string .single body] := by
  intro rest us hrest hsplits
  refine .token (step_string d h hrest.nameStops) ?_ hsplits
  rw [Literal.single, toList_quoted, List.cons_append]
  simp only [List.length_append, List.length_cons]
  omega

lemma opens_operator {s : Symbol} (h : s ∈ signOperators) :
    Opens d (" " ++ s.spelling ++ " ") [.symbol s] := by
  intro rest us hsplits
  have hblank : (" " ++ s.spelling ++ " ").toList ++ rest =
      ' ' :: (s.spelling.toList ++ ' ' :: rest) := by simp
  rw [hblank]
  have hnonempty : ∀ s ∈ signOperators, 0 < s.spelling.toList.length := by decide
  have hlength := hnonempty s h
  refine .gap (step_blank d _) (by simp) (.token (step_operator d h rest) ?_ ?_)
  · rw [List.length_append]
    omega
  · exact .gap (step_blank d rest) (by simp) hsplits

end Lexemes

section Minus

/-- A minus sign before this character is a sign by itself. -/
def followsMinus (d : Dialect) (c : Char) : Bool := c != '-' && c != '>' && !d.extendsOperator c

def BeginsOperand (d : Dialect) (text : String) : Prop :=
  text.toList.head?.any (followsMinus d) = true

instance (d : Dialect) (text : String) : Decidable (BeginsOperand d text) :=
  inferInstanceAs (Decidable (_ = _))

lemma beginsOperand_of_cons {text : String} {c : Char} {cs : List Char} (h : text.toList = c :: cs)
    (hc : followsMinus d c = true) : BeginsOperand d text := by
  rw [BeginsOperand, h]
  exact hc

lemma exists_of_beginsOperand {text : String} (h : BeginsOperand d text) :
    ∃ c cs, text.toList = c :: cs ∧ followsMinus d c = true := by
  rw [BeginsOperand] at h
  cases htext : text.toList with
  | nil =>
    rw [htext] at h
    cases h
  | cons c cs =>
    rw [htext] at h
    exact ⟨c, cs, rfl, h⟩

lemma BeginsOperand.append {a : String} (h : BeginsOperand d a) (b : String) :
    BeginsOperand d (a ++ b) := by
  obtain ⟨c, cs, ha, hc⟩ := exists_of_beginsOperand h
  exact beginsOperand_of_cons (by rw [String.toList_append, ha]; rfl) hc

lemma followsMinus_of_isWordPart {c : Char} (hc : isWordPart c = true) :
    followsMinus d c = true :=
  forall_ascii (P := fun c => isWordPart c = true → ∀ d ∈ Dialect.all, followsMinus d c = true)
    (by decide +kernel) (toNat_lt_of_isWordPart hc) hc d (mem_allDialects d)

lemma beginsOperand_ident {i : Ident} (hi : RereadsName d i) : BeginsOperand d i.spelling := by
  cases hquote : i.quote with
  | some quote =>
    simp only [RereadsName, hquote] at hi
    refine beginsOperand_of_cons (Ident.toList_spelling_of_quote hquote) ?_
    have hthree := quotesName_facts hi.1
    simp only [List.mem_cons, List.not_mem_nil, or_false] at hthree
    rcases hthree with rfl | rfl | rfl <;> cases d <;>
      first | decide | exact absurd hi.1 (by decide)
  | none =>
    have hspelling : i.spelling = i.value := by rw [Ident.spelling, hquote]
    simp only [RereadsName, hquote, isPlainIdentifier] at hi
    cases hvalue : i.value.toList with
    | nil =>
      rw [hvalue] at hi
      cases hi
    | cons c cs =>
      rw [hvalue] at hi
      have hstart := (Bool.and_eq_true_iff.1 hi).1
      exact beginsOperand_of_cons (by rw [hspelling, hvalue])
        (followsMinus_of_isWordPart (isWordPart_of_isWordStart hstart))

lemma beginsOperand_name {i : Ident} (hi : RereadsName d i) (n : Name) :
    BeginsOperand d (Name.spelling (i :: n)) := by
  have hfirst := beginsOperand_ident hi
  cases n with
  | nil => simpa [Name.spelling] using hfirst
  | cons j n =>
    rw [Name.spelling, List.map_cons, List.map_cons, String.intercalate_cons_cons,
      String.append_assoc]
    exact hfirst.append _

lemma beginsOperand_numeral {digits : String} (h : IsNumeral digits.toList) :
    BeginsOperand d digits := by
  have hpart : ∀ c : Char, c.isDigit = true → followsMinus d c = true := fun c hc =>
    followsMinus_of_isWordPart (by simp [isWordPart, Char.isAlphanum, hc])
  obtain ⟨c, cs, htext, hc⟩ := h.exists_digit
  exact beginsOperand_of_cons htext (hpart c hc)

lemma beginsOperand_string (body : String) : BeginsOperand d (Literal.single body) :=
  beginsOperand_of_cons (toList_quoted '\'' body) (by cases d <;> decide)

lemma step_minus (d : Dialect) {c : Char} (hc : followsMinus d c = true) (rest : List Char) :
    step d ('-' :: c :: rest) = .ok (.token (.symbol .minus), c :: rest) := by
  simp only [followsMinus, Bool.and_eq_true, bne_iff_ne, ne_eq, Bool.not_eq_true'] at hc
  obtain ⟨⟨hdash, harrow⟩, hextends⟩ := hc
  have hread : dash d (c :: rest) = sign .minus (c :: rest) := by
    unfold dash
    split <;> simp_all [operator]
  rw [step_cons d (by decide) (prefixed?_of_toUpper d (by decide) _)]
  cases d <;> exact hread

lemma splitsInto_negative {a : String} {ts : List Token} (h : SplitsInto d a ts)
    (hbegins : BeginsOperand d a) : SplitsInto d ("-" ++ a) (.symbol .minus :: ts) := by
  obtain ⟨c, cs, ha, hc⟩ := exists_of_beginsOperand hbegins
  intro rest us hrest hsplits
  have hinner := h rest us hrest hsplits
  rw [String.toList_append, ha]
  rw [ha] at hinner
  exact .token (step_minus d hc _) (by simp) hinner

end Minus

/-- What a fixed text consists of. -/
inductive Mark where
  | blank
  | sign (c : Char) (s : Symbol)
  | word (w : String)

namespace Mark

def text : Mark → List Char
  | blank => [' ']
  | sign c _ => [c]
  | word w => w.toList

def tokens : Mark → List Token
  | blank => []
  | sign _ s => [.symbol s]
  | word w => [.keyword w]

def endsWord : List Mark → Bool
  | blank :: _ => true
  | sign c _ :: _ => isStop c
  | _ => false

def isKeyword (w : String) : Bool := isPlainIdentifier w && capitals w == w

/-- Every word is followed by something that ends it. -/
def isPhrase : List Mark → Bool
  | [] => true
  | blank :: ms => isPhrase ms
  | sign c s :: ms => signs.contains (c, s) && isPhrase ms
  | word w :: ms => isKeyword w && endsWord ms && isPhrase ms

lemma nameStops_of_endsWord {ms : List Mark} (h : endsWord ms = true) (rest : List Char) :
    NameStops (ms.flatMap text ++ rest) := by
  match ms, h with
  | blank :: _, _ => exact fun c hc => .inl (by rw [← Option.some.inj hc]; decide)
  | sign c _ :: _, h => exact fun c' hc' => .inl (by rw [← Option.some.inj hc']; exact h)

lemma splits_keyword {w : String} (hw : isKeyword w = true) {rest : List Char} {us : List Token}
    (hrest : NameStops rest) (h : Splits d rest us) :
    Splits d (w.toList ++ rest) (.keyword w :: us) := by
  obtain ⟨hplain, hcapitals⟩ := Bool.and_eq_true_iff.1 hw
  have hsplits := Splits.ident (i := ⟨w, none⟩) (d := d) hplain hrest h
  rw [Ident.word, Word.plain, beq_iff_eq.1 hcapitals] at hsplits
  exact hsplits

lemma splits {ms : List Mark} (hms : isPhrase ms = true) {rest : List Char} {us : List Token}
    (h : Splits d rest us) :
    Splits d (ms.flatMap text ++ rest) (ms.flatMap tokens ++ us) := by
  induction ms with
  | nil => exact h
  | cons m ms ih =>
    rw [List.flatMap_cons, List.flatMap_cons, List.append_assoc, List.append_assoc]
    cases m with
    | blank => exact .gap (step_blank d _) (by simp [text]) (ih hms)
    | sign c s =>
      obtain ⟨hsign, hms⟩ := Bool.and_eq_true_iff.1 hms
      exact .token (step_sign d (List.contains_iff_mem.1 hsign) _) (by simp [text]) (ih hms)
    | word w =>
      obtain ⟨hw, hms⟩ := Bool.and_eq_true_iff.1 hms
      obtain ⟨hw, hends⟩ := Bool.and_eq_true_iff.1 hw
      exact splits_keyword hw (nameStops_of_endsWord hends rest) (ih hms)

end Mark

lemma opens_marks {text : String} (ms : List Mark) (h : Mark.isPhrase ms = true)
    (htext : text.toList = ms.flatMap Mark.text) : Opens d text (ms.flatMap Mark.tokens) := by
  intro rest us hsplits
  rw [htext]
  exact Mark.splits h hsplits

/-- A fixed text may end in a word, too. -/
lemma splitsInto_marks_word {text : String} (ms : List Mark) (w : String)
    (h : Mark.isPhrase ms = true) (hw : Mark.isKeyword w = true)
    (htext : text.toList = ms.flatMap Mark.text ++ w.toList) :
    SplitsInto d text (ms.flatMap Mark.tokens ++ [Token.keyword w]) := by
  intro rest us hrest hsplits
  rw [htext, List.append_assoc, List.append_assoc]
  exact Mark.splits h (Mark.splits_keyword hw hrest.nameStops hsplits)

/-- Keywords with a blank before each of them and one behind the last. -/
def Mark.spaced (ks : List Token) : List Mark := .blank :: ks.flatMap fun t => [.word t.key, .blank]

lemma opens_spaced {text : String} {ks : List Token} (h : Mark.isPhrase (Mark.spaced ks) = true)
    (htokens : (Mark.spaced ks).flatMap Mark.tokens = ks)
    (htext : text.toList = (Mark.spaced ks).flatMap Mark.text) : Opens d text ks := by
  rw [← htokens]
  exact opens_marks _ h htext

example : Opens d " LEFT JOIN " [.keyword "LEFT", .keyword "JOIN"] :=
  opens_marks [.blank, .word "LEFT", .blank, .word "JOIN", .blank] (by decide) (by decide)

end Lexer

end RowFence.Sql
