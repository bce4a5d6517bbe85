import Mathlib.Data.List.Basic
import Mathlib.Tactic.Lemma
import RowFence.Policy
import RowFence.Sql.Lexer
import RowFence.Sql.Literal

/-! Which tokens a text is split into, told piece by piece: a piece can be split by itself when what
follows it starts with a character that ends every word and every literal. -/

namespace RowFence.Sql.Lexer

/-- What a text is split into, the gaps left out. -/
inductive Splits (d : Dialect) : List Char → List Token → Prop
  | nil : Splits d [] []
  | gap {text rest : List Char} {g : String} {ts : List Token}
      (read : step d text = .ok (.gap g, rest)) (shorter : rest.length < text.length) :
      Splits d rest ts → Splits d text ts
  | token {text rest : List Char} {t : Token} {ts : List Token}
      (read : step d text = .ok (.token t, rest)) (shorter : rest.length < text.length) :
      Splits d rest ts → Splits d text (t :: ts)

lemma tokensFrom_of_splits {d : Dialect} {text : List Char} {ts : List Token}
    (h : Splits d text ts) (fuel : Nat) (enough : text.length ≤ fuel) (place : Position)
    (gaps : List String) (read : Array PlacedToken) :
    ∃ found, tokensFrom d fuel place gaps text read = .ok found ∧
      found.toList.map (·.token) = read.toList.map (·.token) ++ (ts ++ [Token.ending]) := by
  induction h generalizing fuel place gaps read with
  | nil => cases fuel <;> exact ⟨_, rfl, by simp⟩
  | @gap text rest g ts hstep shorter _ ih =>
    cases fuel with
    | zero => omega
    | succ fuel =>
      cases text with
      | nil => simp at shorter
      | cons c text =>
        obtain ⟨found, hfound, htokens⟩ := ih fuel (by omega) (placeOf place (c :: text) rest)
          (g :: gaps) read
        refine ⟨found, ?_, htokens⟩
        rw [tokensFrom, hstep]
        · exact hfound
        · exact fun h => nomatch h
  | @token text rest t ts hstep shorter _ ih =>
    cases fuel with
    | zero => omega
    | succ fuel =>
      cases text with
      | nil => simp at shorter
      | cons c text =>
        obtain ⟨found, hfound, htokens⟩ := ih fuel (by omega) (placeOf place (c :: text) rest) []
          (read.push ⟨t, place, gaps.reverse⟩)
        refine ⟨found, ?_, by simp [htokens]⟩
        rw [tokensFrom, hstep]
        · exact hfound
        · exact fun h => nomatch h

lemma tokens_of_splits {d : Dialect} {text : String} {ts : List Token}
    (h : Splits d text.toList ts) :
    ∃ found, tokens d text = .ok found ∧ found.toList.map (·.token) = ts ++ [Token.ending] := by
  obtain ⟨found, hfound, htokens⟩ := tokensFrom_of_splits h _ (Nat.le_refl _) .start [] #[]
  exact ⟨found, hfound, by simpa using htokens⟩

/-- Characters that end a word or a number wherever they follow it. -/
def isStop (c : Char) : Bool := [' ', ',', '(', ')', ';'].contains c

def Stops (rest : List Char) : Prop := ∀ c ∈ rest.head?, isStop c = true

/-- After a part of a name a period may follow, too. -/
def NameStops (rest : List Char) : Prop := ∀ c ∈ rest.head?, isStop c = true ∨ c = '.'

lemma Stops.nameStops {rest : List Char} (h : Stops rest) : NameStops rest :=
  fun c hc => .inl (h c hc)

section Words

def isWordStart (c : Char) : Bool := c.isAlpha || c = '_'

def isWordPart (c : Char) : Bool := c.isAlphanum || c = '_'

lemma forall_ascii {P : Char → Prop} (h : ∀ n < 128, P (Char.ofNat n)) {c : Char}
    (hc : c.toNat < 128) : P c := by
  rw [← Char.ofNat_toNat c]
  exact h _ hc

lemma toNat_lt_of_isWordPart {c : Char} (hc : isWordPart c = true) : c.toNat < 128 := by
  have hkind : ((c.isUpper || c.isLower) || c.isDigit || decide (c = '_')) = true := hc
  simp only [Bool.or_eq_true, decide_eq_true_eq] at hkind
  rcases hkind with ((h | h) | h) | rfl
  · have hrange : 'A'.val ≤ c.val ∧ c.val ≤ 'Z'.val := of_decide_eq_true h
    exact Nat.lt_of_le_of_lt (UInt32.le_iff_toNat_le.1 hrange.2) (by decide)
  · have hrange : (decide ('a'.val ≤ c.val) && decide (c.val ≤ 'z'.val)) = true := h
    have hz := of_decide_eq_true (Bool.and_eq_true_iff.1 hrange).2
    exact Nat.lt_of_le_of_lt (UInt32.le_iff_toNat_le.1 hz) (by decide)
  · have hrange : (decide ('0'.val ≤ c.val) && decide (c.val ≤ '9'.val)) = true := h
    have hnine := of_decide_eq_true (Bool.and_eq_true_iff.1 hrange).2
    exact Nat.lt_of_le_of_lt (UInt32.le_iff_toNat_le.1 hnine) (by decide)
  · decide

lemma isWordPart_of_isWordStart {c : Char} (hc : isWordStart c = true) : isWordPart c = true := by
  simp only [isWordStart, isWordPart, Char.isAlphanum, Bool.or_eq_true] at hc ⊢
  exact hc.imp .inl id

lemma mem_allDialects (d : Dialect) : d ∈ Dialect.all := by cases d <;> decide

lemma continuesWord_of_isWordPart (d : Dialect) {c : Char} (hc : isWordPart c = true) :
    d.continuesWord c = true :=
  forall_ascii (P := fun c => isWordPart c = true → ∀ d ∈ Dialect.all, d.continuesWord c = true)
    (by decide +kernel) (toNat_lt_of_isWordPart hc) hc d (mem_allDialects d)

lemma not_continuesWord_of_nameStop (d : Dialect) {c : Char} (hc : isStop c = true ∨ c = '.') :
    d.continuesWord c = false := by
  simp only [isStop, List.contains_eq_mem, List.mem_cons, List.not_mem_nil, or_false,
    decide_eq_true_eq] at hc
  rcases hc with (rfl | rfl | rfl | rfl | rfl) | rfl <;> cases d <;> decide +kernel

/-- The first letter of a word has no other use in any dialect. -/
def BeginsWord (d : Dialect) (c : Char) : Prop :=
  c ∉ ['\n', '\r', '\t', ' ', '\'', '"', '.'] ∧ d.quotesName c = false ∧ c.isDigit = false ∧
    punctuation? c = none ∧ (operator? d c).isNone = true ∧ d.startsWord c = true

instance (d : Dialect) (c : Char) : Decidable (BeginsWord d c) := by
  unfold BeginsWord
  infer_instance

lemma beginsWord_of_isWordStart (d : Dialect) {c : Char} (hc : isWordStart c = true) :
    BeginsWord d c :=
  forall_ascii (P := fun c => isWordStart c = true → ∀ d ∈ Dialect.all, BeginsWord d c)
    (by decide +kernel) (toNat_lt_of_isWordPart (isWordPart_of_isWordStart hc)) hc d
    (mem_allDialects d)

/-- A word starts no literal with a prefix unless a quote follows its first letter. -/
lemma prefixed?_eq_none (d : Dialect) (c : Char) {rest : List Char}
    (h : ∀ q ∈ rest.head?, q ≠ '\'' ∧ q ≠ '"' ∧ q ≠ '&') : prefixed? d (c :: rest) = none := by
  cases rest with
  | nil => rfl
  | cons q rest =>
    obtain ⟨hsingle, hdouble, hand⟩ := h q rfl
    unfold prefixed?
    split <;> simp_all

lemma nameStop_facts {c : Char} (hc : isStop c = true ∨ c = '.') :
    (c ≠ '\'' ∧ c ≠ '"' ∧ c ≠ '&') ∧ c ∉ ['"', '`', ']'] := by
  simp only [isStop, List.contains_eq_mem, List.mem_cons, List.not_mem_nil, or_false,
    decide_eq_true_eq] at hc
  rcases hc with (rfl | rfl | rfl | rfl | rfl) | rfl <;> decide

lemma not_quote_of_isWordPart {c : Char} (hc : isWordPart c = true) :
    c ≠ '\'' ∧ c ≠ '"' ∧ c ≠ '&' := by
  refine ⟨?_, ?_, ?_⟩ <;> rintro rfl <;> exact absurd hc (by decide)

lemma span_append {p : Char → Bool} {cs rest : List Char} (hcs : cs.all p = true)
    (hrest : ∀ c ∈ rest.head?, p c = false) :
    (cs ++ rest).takeWhile p = cs ∧ (cs ++ rest).dropWhile p = rest := by
  have hmem : ∀ c ∈ cs, p c = true := List.all_eq_true.1 hcs
  rw [List.takeWhile_append_of_pos hmem, List.dropWhile_append_of_pos hmem]
  cases rest with
  | nil => simp
  | cons c rest => simp [hrest c rfl]

/-- Without a prefix the first character that is no gap settles what is read. -/
lemma step_cons (d : Dialect) {c : Char} {rest : List Char}
    (hgap : c ∉ ['\n', '\r', '\t', ' ']) (hprefixed : prefixed? d (c :: rest) = none) :
    step d (c :: rest) =
      if opensLiteral d c then plainWord d c rest
      else if c = '\'' then stringLiteral .single c d.backslashEscapes (c :: rest)
      else if c = '"' && !d.quotesName c then stringLiteral .double c d.backslashEscapes (c :: rest)
      else if d.quotesName c then quotedName c (c :: rest)
      else if c.isDigit || c = '.' then
        .ok (.token (number d (c :: rest)).1, (number d (c :: rest)).2)
      else
        match punctuation? c, operator? d c with
        | some s, _ => sign s rest
        | none, some read => read rest
        | none, none =>
          if d.startsWord c then wordFrom d [c] rest
          else if c = '$' then dollarToken (c :: rest)
          else if Text.isBlank c then gap " " rest
          else .ok (.token (.char c), rest) := by
  simp only [List.mem_cons, List.not_mem_nil, not_or, or_false] at hgap
  obtain ⟨hnewline, hreturn, htab, hblank⟩ := hgap
  unfold step
  split
  · rename_i h
    cases h
  · rename_i h
    obtain ⟨rfl, -⟩ := List.cons.inj h
    exact absurd rfl hreturn
  · rename_i h
    obtain ⟨rfl, rfl⟩ := List.cons.inj h
    have hbreak : ¬ (decide (c = '\n') || decide (c = '\r')) = true := by simp [hnewline, hreturn]
    refine (if_neg hbreak).trans ((if_neg htab).trans ((if_neg hblank).trans ?_))
    generalize prefixed? d (c :: rest) = found at hprefixed
    subst hprefixed
    rfl

lemma step_wordStart (d : Dialect) {c : Char} (hc : isWordStart c = true) {rest : List Char}
    (hprefixed : prefixed? d (c :: rest) = none) :
    step d (c :: rest) = if opensLiteral d c then plainWord d c rest else wordFrom d [c] rest := by
  obtain ⟨hother, hquotes, hdigit, hpunctuation, hoperator, hstarts⟩ :=
    beginsWord_of_isWordStart d hc
  have hoperator : operator? d c = none := Option.isNone_iff_eq_none.1 hoperator
  simp only [List.mem_cons, List.not_mem_nil, not_or, or_false] at hother
  obtain ⟨hnewline, hreturn, htab, hblank, hsingle, hdouble, hperiod⟩ := hother
  rw [step_cons d (by simp [*]) hprefixed]
  simp [hsingle, hdouble, hquotes, hdigit, hperiod, hpunctuation, hoperator, hstarts]

lemma step_word (d : Dialect) {c : Char} (hc : isWordStart c = true) {cs rest : List Char}
    (hcs : cs.all isWordPart = true) (hrest : NameStops rest) :
    step d (c :: cs ++ rest) = .ok (.token (.word (.plain (String.ofList (c :: cs)))), rest) := by
  have hcontinues : cs.all d.continuesWord = true :=
    List.all_eq_true.2 fun c hc => continuesWord_of_isWordPart d (List.all_eq_true.1 hcs c hc)
  obtain ⟨htake, hdrop⟩ := span_append hcontinues fun c hc =>
    not_continuesWord_of_nameStop d (hrest c hc)
  have hprefixed : prefixed? d (c :: (cs ++ rest)) = none := by
    refine prefixed?_eq_none d c fun q hq => ?_
    cases cs with
    | nil => exact (nameStop_facts (hrest q hq)).1
    | cons q' cs =>
      obtain rfl := Option.some.inj hq
      exact not_quote_of_isWordPart (List.all_eq_true.1 hcs _ List.mem_cons_self)
  have hnumeric : (c :: cs).all (fun c => c.isDigit || decide (c = '.')) = false := by
    obtain ⟨hother, -, hdigit, -⟩ := beginsWord_of_isWordStart d hc
    have hperiod : c ≠ '.' := fun h => hother (by simp [h])
    simp [hdigit, hperiod]
  rw [List.cons_append, step_wordStart d hc hprefixed]
  split
  · rw [plainWord, htake, hdrop]
  · simp only [wordFrom, htake, hdrop, List.singleton_append, hnumeric]
    rfl

end Words

section Signs

lemma prefixed?_of_toUpper (d : Dialect) {c : Char}
    (h : c.toUpper ∉ ['B', 'R', 'N', 'E', 'X', 'U']) (rest : List Char) :
    prefixed? d (c :: rest) = none := by
  simp only [List.mem_cons, List.not_mem_nil, not_or, or_false] at h
  unfold prefixed?
  split <;> simp_all

lemma step_blank (d : Dialect) (rest : List Char) : step d (' ' :: rest) = .ok (.gap " ", rest) := by
  unfold step
  simp [gap]

def signs : List (Char × Symbol) :=
  [(',', .comma), ('(', .lParen), (')', .rParen), (';', .semiColon), ('*', .mul)]

lemma step_sign (d : Dialect) {c : Char} {s : Symbol} (h : (c, s) ∈ signs) (rest : List Char) :
    step d (c :: rest) = .ok (.token (.symbol s), rest) := by
  simp only [signs, List.mem_cons, List.not_mem_nil, or_false, Prod.mk.injEq] at h
  rcases h with ⟨rfl, rfl⟩ | ⟨rfl, rfl⟩ | ⟨rfl, rfl⟩ | ⟨rfl, rfl⟩ | ⟨rfl, rfl⟩ <;>
    rw [step_cons d (by decide) (prefixed?_of_toUpper d (by decide) rest)] <;> cases d <;> rfl

lemma step_period (d : Dialect) {rest : List Char} (h : ∀ c ∈ rest.head?, c.isDigit = false) :
    step d ('.' :: rest) = .ok (.token (.symbol .period), rest) := by
  have hnumber : number d ('.' :: rest) = (.symbol .period, rest) := by
    cases rest with
    | nil => rfl
    | cons c rest => simp [number, digits, h c rfl]
  rw [step_cons d (by decide) (prefixed?_of_toUpper d (by decide) rest), hnumber]
  cases d <;> rfl

def signOperators : List Symbol :=
  [.eq, .neq, .lt, .ltEq, .gt, .gtEq, .spaceship, .plus, .minus, .mul, .div, .mod, .stringConcat]

lemma step_operator (d : Dialect) {s : Symbol} (h : s ∈ signOperators) (rest : List Char) :
    step d (s.spelling.toList ++ ' ' :: rest) = .ok (.token (.symbol s), ' ' :: rest) := by
  simp only [signOperators, List.mem_cons, List.not_mem_nil, or_false] at h
  rcases h with rfl | rfl | rfl | rfl | rfl | rfl | rfl | rfl | rfl | rfl | rfl | rfl | rfl <;>
    refine (step_cons d (by decide) (prefixed?_of_toUpper d (by decide) _)).trans ?_ <;>
    cases d <;> rfl

end Signs

section Literals

lemma digit_facts {c : Char} (hc : c.isDigit = true) :
    c ∉ ['\n', '\r', '\t', ' ', '\'', '"', '.', 'e', 'E', 'L', 'x'] ∧
      c.toUpper ∉ ['B', 'R', 'N', 'E', 'X', 'U'] ∧
      ∀ d ∈ Dialect.all, d.quotesName c = false ∧ opensLiteral d c = false := by
  have hpart : isWordPart c = true := by simp [isWordPart, Char.isAlphanum, hc]
  exact forall_ascii (P := fun c => c.isDigit = true →
    c ∉ ['\n', '\r', '\t', ' ', '\'', '"', '.', 'e', 'E', 'L', 'x'] ∧
      c.toUpper ∉ ['B', 'R', 'N', 'E', 'X', 'U'] ∧
      ∀ d ∈ Dialect.all, d.quotesName c = false ∧ opensLiteral d c = false)
    (by decide +kernel) (toNat_lt_of_isWordPart hpart) hc

lemma stop_facts {c : Char} (hc : isStop c = true) :
    c ∉ ['\'', '"', '`', ']', '.', 'e', 'E', 'L', 'x'] ∧ c.isDigit = false := by
  simp only [isStop, List.contains_eq_mem, List.mem_cons, List.not_mem_nil, or_false,
    decide_eq_true_eq] at hc
  rcases hc with rfl | rfl | rfl | rfl | rfl <;> decide

lemma exponentMark_of_stops {rest : List Char} (hrest : Stops rest) :
    exponentMark rest = ([], rest) := by
  cases rest with
  | nil => rfl
  | cons c rest =>
    have hc := (stop_facts (hrest c rfl)).1
    simp only [List.mem_cons, List.not_mem_nil, not_or, or_false] at hc
    simp [exponentMark, hc]

inductive IsNumeral : List Char → Prop
  | whole {cs : List Char} (nonempty : cs ≠ []) (digits : cs.all Char.isDigit = true) :
      IsNumeral cs
  | decimal {cs fraction : List Char} (nonempty : cs ≠ []) (digits : cs.all Char.isDigit = true)
      (exact : fraction.all Char.isDigit = true) : IsNumeral (cs ++ '.' :: fraction)

lemma IsNumeral.ne_nil {cs : List Char} (h : IsNumeral cs) : cs ≠ [] := by
  cases h with
  | whole nonempty digits => exact nonempty
  | decimal nonempty digits exact => exact List.append_ne_nil_of_left_ne_nil nonempty _

lemma IsNumeral.exists_digit {cs : List Char} (h : IsNumeral cs) :
    ∃ c tail, cs = c :: tail ∧ c.isDigit = true := by
  cases h with
  | whole nonempty digits =>
    obtain ⟨c, tail, rfl⟩ := List.exists_cons_of_ne_nil nonempty
    exact ⟨c, tail, rfl, List.all_eq_true.1 digits c List.mem_cons_self⟩
  | decimal nonempty digits exact =>
    obtain ⟨c, tail, rfl⟩ := List.exists_cons_of_ne_nil nonempty
    exact ⟨c, _, rfl, List.all_eq_true.1 digits c List.mem_cons_self⟩

lemma digits_append {cs rest : List Char} (hcs : cs.all Char.isDigit = true)
    (hrest : ∀ c ∈ rest.head?, c.isDigit = false) : digits (cs ++ rest) = (cs, rest) := by
  obtain ⟨htake, hdrop⟩ := span_append hcs hrest
  rw [digits, htake, hdrop]

lemma takeWhile_continuesWord_of_stops (d : Dialect) {rest : List Char} (hrest : Stops rest) :
    rest.takeWhile d.continuesWord = [] := by
  cases rest with
  | nil => rfl
  | cons c rest => simp [not_continuesWord_of_nameStop d (.inl (hrest c rfl))]

lemma number_of_isNumeral (d : Dialect) {cs rest : List Char} (hcs : IsNumeral cs)
    (hrest : Stops rest) : number d (cs ++ rest) = (.number (String.ofList cs) false, rest) := by
  have hdigit : ∀ c ∈ rest.head?, c.isDigit = false := fun c hc => (stop_facts (hrest c hc)).2
  have hnone : digits rest = ([], rest) := @digits_append [] rest rfl hdigit
  have hword := takeWhile_continuesWord_of_stops d hrest
  have hmark := exponentMark_of_stops hrest
  have hother : ∀ c ∈ rest.head?, c ∉ ['\'', '"', '`', ']', '.', 'e', 'E', 'L', 'x'] :=
    fun c hc => (stop_facts (hrest c hc)).1
  cases hcs with
  | whole nonempty hdigits =>
    have hperiod : cs ≠ ['.'] := by
      rintro rfl
      exact absurd hdigits (by decide)
    simp only [number, digits_append hdigits hdigit]
    cases rest with
    | nil => simp [hnone, hmark, hperiod]
    | cons c rest =>
      have hc := hother c rfl
      simp only [List.mem_cons, List.not_mem_nil, not_or, or_false] at hc
      simp [hnone, hmark, hperiod, hword, hc]
  | @decimal cs fraction nonempty hdigits exact =>
    have hperiod : cs ++ '.' :: fraction ≠ ['.'] := by
      obtain _ | ⟨c, cs⟩ := cs
      · exact absurd rfl nonempty
      · simp
    rw [List.append_assoc, List.cons_append]
    have hperiodNext : ∀ c ∈ ('.' :: (fraction ++ rest)).head?, c.isDigit = false := by simp
    simp only [number, digits_append hdigits hperiodNext, digits_append exact hdigit, hmark]
    cases rest with
    | nil => simp [hnone, hperiod]
    | cons c rest =>
      have hc := hother c rfl
      simp only [List.mem_cons, List.not_mem_nil, not_or, or_false] at hc
      simp [hnone, hperiod, hword, hc]

lemma map_before_eq_some {c : Char} {read? : Option (List Char × List Char)}
    {body rest : List Char} :
    read?.map (before c) = some (body, rest) ↔
      ∃ inner, read? = some (inner, rest) ∧ c :: inner = body := by
  rw [Option.map_eq_some_iff]
  constructor
  · rintro ⟨⟨inner, tail⟩, hread, hbody⟩
    have hboth : (c :: inner, tail) = (body, rest) := hbody
    obtain ⟨rfl, rfl⟩ := Prod.mk.inj hboth
    exact ⟨inner, hread, rfl⟩
  · rintro ⟨inner, hread, rfl⟩
    exact ⟨_, hread, rfl⟩

/-- What ends before a quote ends there, too, when more follows that does not start with one. -/
lemma stringBody?_append {quote : Char} {escapes : Bool} {rest : List Char}
    (hrest : ∀ c ∈ rest.head?, c ≠ quote) : (text : List Char) → {body left : List Char} →
    stringBody? quote escapes text = some (body, left) →
    stringBody? quote escapes (text ++ rest) = some (body, left ++ rest)
  | [], _, _, h => nomatch h
  | [c], body, left, h => by
    rw [stringBody?] at h
    split at h
    · rename_i hc
      obtain ⟨rfl, rfl⟩ := Prod.mk.inj (Option.some.inj h)
      cases rest with
      | nil => simp [stringBody?, hc]
      | cons d rest => simp [stringBody?, hc, hrest d rfl]
    · cases h
  | c :: d :: text, body, left, h => by
    rw [stringBody?] at h
    rw [List.cons_append, List.cons_append, stringBody?]
    split at h
    · rename_i hc
      rw [if_pos hc]
      split at h
      · rename_i hd
        obtain ⟨inner, hinner, rfl⟩ := map_before_eq_some.1 h
        rw [if_pos hd, stringBody?_append hrest text hinner]
        rfl
      · rename_i hd
        obtain ⟨rfl, rfl⟩ := Prod.mk.inj (Option.some.inj h)
        rw [if_neg hd, List.cons_append]
    · rename_i hc
      rw [if_neg hc]
      split at h
      · rename_i hescape
        obtain ⟨inner, hinner, rfl⟩ := map_before_eq_some.1 h
        rw [if_pos hescape, stringBody?_append hrest text hinner]
        rfl
      · rename_i hescape
        obtain ⟨inner, hinner, rfl⟩ := map_before_eq_some.1 h
        have hmore := stringBody?_append hrest (d :: text) hinner
        rw [List.cons_append] at hmore
        rw [if_neg hescape, hmore]
        rfl

lemma step_numeral (d : Dialect) {cs rest : List Char} (hcs : IsNumeral cs) (hrest : Stops rest) :
    step d (cs ++ rest) = .ok (.token (.number (String.ofList cs) false), rest) := by
  have hnumber := number_of_isNumeral d hcs hrest
  obtain ⟨c, tail, rfl, hc⟩ := hcs.exists_digit
  obtain ⟨hother, hupper, hdialect⟩ := digit_facts hc
  obtain ⟨hquotes, hopens⟩ := hdialect d (mem_allDialects d)
  simp only [List.mem_cons, List.not_mem_nil, not_or, or_false] at hother
  rw [List.cons_append] at hnumber ⊢
  rw [step_cons d (by simp [hother]) (prefixed?_of_toUpper d hupper _), hnumber]
  simp [hopens, hother, hquotes, hc]

lemma toList_quoted (quote : Char) (s : String) :
    (quoted quote s).toList = quote :: (doubleQuotes quote '\x00' s.toList ++ [quote]) := by
  simp [quoted]

/-- The body of a literal in single quotes is read back as it was. -/
def Rereads (d : Dialect) (body : String) : Prop :=
  stringBody? '\'' d.backslashEscapes (Literal.single body).toList.tail = some (body.toList, [])

instance (d : Dialect) (body : String) : Decidable (Rereads d body) :=
  inferInstanceAs (Decidable (_ = _))

lemma step_string (d : Dialect) {body : String} (hbody : Rereads d body) {rest : List Char}
    (hrest : NameStops rest) : step d ((Literal.single body).toList ++ rest) =
      .ok (.token (.string .single body), rest) := by
  have hquote : ∀ c ∈ rest.head?, c ≠ '\'' := fun c hc => (nameStop_facts (hrest c hc)).1.1
  have hmore := stringBody?_append hquote _ hbody
  rw [Literal.single, toList_quoted, List.tail_cons, List.nil_append] at hmore
  have hliteral : stringLiteral .single '\'' d.backslashEscapes
      ('\'' :: (doubleQuotes '\'' '\x00' body.toList ++ ['\''] ++ rest)) =
        .ok (.token (.string .single body), rest) := by
    simp only [stringLiteral, List.tail_cons, hmore, String.ofList_toList]
  rw [Literal.single, toList_quoted, List.cons_append,
    step_cons d (by decide) (prefixed?_of_toUpper d (by decide) _)]
  cases d <;> exact hliteral

/-- A name is a word of ASCII letters, digits and low lines, or is quoted and read back as it was. -/
def RereadsName (d : Dialect) (i : Ident) : Prop :=
  match i.quote with
  | none => isPlainIdentifier i.value = true
  | some quote =>
    d.quotesName quote = true ∧
      stringBody? (closingQuote quote) false i.spelling.toList.tail = some (i.value.toList, [])

instance (d : Dialect) : (i : Ident) → Decidable (RereadsName d i)
  | ⟨value, none⟩ => inferInstanceAs (Decidable (isPlainIdentifier value = true))
  | ⟨_, some _⟩ => inferInstanceAs (Decidable (_ ∧ _))

end Literals

end Lexer

namespace Ident

def word (i : Ident) : Word :=
  match i.quote with
  | none => .plain i.value
  | some quote => .quoted i.value quote

@[simp] lemma ofWord_word (i : Ident) : ofWord i.word = i := by
  obtain ⟨value, quote⟩ := i
  cases quote <;> rfl

lemma toList_spelling_of_quote {i : Ident} {quote : Char} (h : i.quote = some quote) :
    i.spelling.toList = quote :: i.spelling.toList.tail := by
  obtain ⟨value, quote?⟩ := i
  obtain rfl : quote? = some quote := h
  unfold spelling
  split
  · rename_i h
    cases h
  · rename_i h
    obtain rfl := Option.some.inj h
    simp
  · rename_i h
    obtain rfl := Option.some.inj h
    rw [Lexer.toList_quoted, List.tail_cons]

end Ident

namespace Lexer

lemma quotesName_facts {d : Dialect} {quote : Char} (h : d.quotesName quote = true) :
    quote ∈ ['"', '`', '['] := by
  cases d <;> grind [Dialect.quotesName]

lemma closingQuote_mem {d : Dialect} {quote : Char} (h : d.quotesName quote = true) :
    closingQuote quote ∈ ['"', '`', ']'] := by
  have hthree := quotesName_facts h
  simp only [List.mem_cons, List.not_mem_nil, or_false] at hthree
  rcases hthree with rfl | rfl | rfl <;> decide

lemma step_quotedName (d : Dialect) {i : Ident} {quote : Char} (hquote : i.quote = some quote)
    (hi : RereadsName d i) {rest : List Char} (hrest : NameStops rest) :
    step d (i.spelling.toList ++ rest) = .ok (.token (.word (.quoted i.value quote)), rest) := by
  simp only [RereadsName, hquote] at hi
  obtain ⟨hquotes, hbody⟩ := hi
  have hclosing : ∀ c ∈ rest.head?, c ≠ closingQuote quote := by
    intro c hc
    have hother := (nameStop_facts (hrest c hc)).2
    rintro rfl
    exact hother (closingQuote_mem hquotes)
  have hmore := stringBody?_append hclosing _ hbody
  rw [List.nil_append] at hmore
  have hname : quotedName quote (quote :: (i.spelling.toList.tail ++ rest)) =
      .ok (.token (.word (.quoted i.value quote)), rest) := by
    rw [quotedName, List.tail_cons, hmore]
    simp only [String.ofList_toList]
  rw [Ident.toList_spelling_of_quote hquote, List.cons_append]
  have hthree := quotesName_facts hquotes
  simp only [List.mem_cons, List.not_mem_nil, or_false] at hthree
  rcases hthree with rfl | rfl | rfl <;>
    rw [step_cons d (by decide) (prefixed?_of_toUpper d (by decide) _)] <;>
    cases d <;> first | exact hname | exact absurd hquotes (by decide)

end Lexer

end RowFence.Sql
