import RowFence.Proofs.Sql.TypeWords

/-! Operands are read from their tokens as they were written. -/

namespace RowFence.Sql

open RowFence.Sql.Parser

/-- The parts of a name after the first one. -/
def Parser.partTokens (n : List Ident) : List Token := n.flatMap fun j => [.symbol .period, .word j.word]

/-- Keywords that may stand after an expression. -/
def endWords : List String :=
  ["AS", "FROM", "WHERE", "GROUP", "HAVING", "ORDER", "LIMIT", "OFFSET", "UNION", "EXCEPT",
    "INTERSECT", "ASC", "DESC", "ROW", "ROWS", "JOIN", "LEFT", "RIGHT", "FULL", "CROSS", "NATURAL",
    "OUTER", "SET", "WHEN", "THEN", "ELSE", "END"]

def listEnds : List Token :=
  [.symbol .rParen, .symbol .semiColon, .ending] ++ endWords.map .keyword

def exprEnds : List Token := .symbol .comma :: listEnds

/-- What may stand after an operand: operators, tests, and what ends an expression. -/
def operandEnds : List Token :=
  exprEnds ++ ["IS", "NOT", "IN", "BETWEEN", "LIKE"].map .keyword ++ operatorTokens.map (·.2)

/-- Signs that are in no form. -/
def unusualTokens : List Token := [.symbol .lBracket, .symbol .rArrow, .symbol .assignment]

def queryEnds : List Token := [.symbol .rParen, .symbol .semiColon, .ending]

namespace Source

variable {s : Source} {i : Nat}

/-- How tightly the token at a position binds as an operator. -/
def strengthAt (s : Source) (i : Nat) : Nat :=
  ((match s.tokenAt i with
    | .word w =>
      Level.ofWords? s.dialect w.key (s.tokenAt (i + 1)).key (s.tokenAt (i + 2)).key
    | .symbol c => Level.ofSymbol? s.dialect c
    | .operator _ => some .extension
    | _ => none).map (Level.strength s.dialect)).getD 0

/-- An expression whose operators bind tighter than this may end here. -/
def halts (s : Source) (p i : Nat) : Prop := s.ends operandEnds i ∧ s.strengthAt i ≤ p

lemma ends.halts (h : s.ends exprEnds i) (p : Nat) : s.halts p i := by
  have hwords : ∀ w ∈ endWords, ∀ next afterNext,
      Level.ofWords? s.dialect w next afterNext = none := by
    simp [endWords, Level.ofWords?]
  have hnone : s.strengthAt i = 0 := by
    simp only [ends, exprEnds, listEnds, List.mem_append, List.mem_cons, List.mem_map,
      List.not_mem_nil, or_false] at h
    unfold strengthAt
    rcases h with h | (h | h | h) | ⟨w, h, hw⟩
    · rw [h]; rfl
    · rw [h]; rfl
    · rw [h]; rfl
    · rw [h]; rfl
    · rw [← hw]
      dsimp only [Token.keyword]
      rw [hwords w h]
      rfl
  exact ⟨List.mem_append_left _ (List.mem_append_left _ h), by rw [hnone]; exact Nat.zero_le p⟩

/-- What begins here is no name, or a name without a period after its parts. -/
def opensAt (s : Source) (i : Nat) : Prop :=
  s.tokenAt (i + 1) ≠ .symbol .period ∨
    ∃ w n, s.tokenAt i = .word w ∧ s.shows (i + 1) (Parser.partTokens n) ∧
      s.tokenAt (i + 1 + (Parser.partTokens n).length) ≠ .symbol .period

/-- No token is one that is in no form. -/
def IsUsual (s : Source) : Prop := ∀ i, s.tokenAt i ∉ unusualTokens

lemma IsUsual.no_bracket (h : s.IsUsual) (i : Nat) : s.tokenAt i ≠ .symbol .lBracket :=
  fun hi => h i (by rw [hi]; decide)

end Source

namespace Forms

/-- A query that does not begin in parentheses begins with a keyword. -/
lemma Regular.key_of_shows {F : Forms} (hF : F.Regular) {s : Source} {q : Query} {ts : List Token}
    (h : F.query q ts) (unwrapped : ∀ t ∈ ts.head?, t ≠ .symbol .lParen) {i : Nat}
    (hshows : s.shows i ts) : (s.tokenAt i).key ∈ ["SELECT", "WITH"] := by
  obtain ⟨t, us, rfl, hstart⟩ := hF.starts _ _ h
  have hkeys : ∀ t ∈ queryStarts, t ≠ .symbol .lParen → t.key ∈ ["SELECT", "WITH"] := by decide
  rw [hshows.1.2]
  exact hkeys t hstart (unwrapped t rfl)

structure ReadBy (s : Source) (g : Grammar) (F : Forms) : Prop where
  expr : ∀ p e ts, F.expr p e ts → Reads s (g.subexpr p) ts e (s.halts p)
  query : ∀ q ts, F.query q ts → Reads s g.query ts q (s.ends queryEnds)
  opens : ∀ p e ts, F.expr p e ts → ∀ i, s.shows i ts → s.ends operandEnds (i + ts.length) →
    s.opensAt i

end Forms

namespace Parser

variable {s : Source} {g : Grammar} {F : Forms} {i j : Nat}

lemma run_nextStrength : nextStrength s i = (.ok (s.strengthAt i), i) := by
  simp only [nextStrength, ↓run_bind, run_dialect, run_peekToken, Source.strengthAt]
  cases s.tokenAt i <;> rfl

section Names

lemma tokens_cons (i : Ident) (n : List Ident) :
    Name.tokens (i :: n) = .word i.word :: partTokens n := by
  induction n generalizing i with
  | nil => rfl
  | cons j n ih => rw [Name.tokens, ih j]; rfl

lemma Steps.parts {step : Parser (Option Ident)} {i : Nat} {n : List Ident}
    (hshows : s.shows i (partTokens n))
    (hpart : ∀ i w, s.tokenAt i = .symbol .period → s.tokenAt (i + 1) = .word w →
      step s i = (.ok (some (.ofWord w)), i + 2))
    (hend : step s (i + (partTokens n).length) = (.ok none, i + (partTokens n).length)) :
    Steps s step i n (i + (partTokens n).length) := by
  induction n generalizing i with
  | nil => exact .nil hend
  | cons j n ih =>
    obtain ⟨⟨-, hperiod⟩, ⟨-, hword⟩, hrest⟩ := hshows
    have hlength : i + (partTokens (j :: n)).length = i + 2 + (partTokens n).length := by
      simp only [partTokens, List.flatMap_cons, List.length_append, List.length_cons,
        List.length_nil]
      omega
    rw [hlength] at hend ⊢
    refine .cons ?_ (ih hrest hend)
    rw [hpart i j.word hperiod hword, Ident.ofWord_word]

lemma length_partTokens (n : List Ident) : (partTokens n).length = 2 * n.length := by
  induction n with
  | nil => rfl
  | cons j n ih =>
    simp only [partTokens, List.flatMap_cons, List.length_append, List.length_cons,
      List.length_nil] at ih ⊢
    omega

lemma run_many_parts {step : Parser (Option Ident)} {n : List Ident}
    (hshows : s.shows i (partTokens n))
    (hpart : ∀ i w, s.tokenAt i = .symbol .period → s.tokenAt (i + 1) = .word w →
      step s i = (.ok (some (.ofWord w)), i + 2))
    (hend : step s (i + (partTokens n).length) = (.ok none, i + (partTokens n).length)) :
    many step s i = (.ok n, i + (partTokens n).length) := by
  have hsize := Source.length_le_of_shows hshows
  rw [length_partTokens] at hsize
  exact run_many (.parts hshows hpart hend) (by omega)

end Names

section Words

variable {interval : Parser Expr} {place : Position} {w : Word}

/-- Past a name stands neither an argument list nor another part of it. -/
lemma not_opening_of_mem {t : Token} (h : t ∈ operandEnds) :
    t ≠ .symbol .lParen ∧ t ≠ .symbol .period ∧ t ≠ .symbol .lBrace ∧ t.key ≠ "COLLATE" ∧
      ∀ kind body, t ≠ .string kind body := by
  have hall : ∀ t ∈ operandEnds, t ≠ .symbol .lParen ∧ t ≠ .symbol .period ∧
      t ≠ .symbol .lBrace ∧ t.key ≠ "COLLATE" ∧ (∀ kind body, t ≠ .string kind body) := by
    simp [operandEnds, exprEnds, listEnds, endWords, operatorTokens, Token.keyword, Token.key]
  exact hall t h

lemma run_wordExpr_opening (hfree : w.key ∉ reservedWords)
    (h : s.tokenAt i = .symbol .lParen ∨ s.tokenAt i = .symbol .period) :
    wordExpr g interval w place s i = compound g interval (.ofWord w) s i := by
  simp only [reservedWords, operandWords, typeWords, List.mem_append, List.mem_cons, not_or,
    List.not_mem_nil] at hfree
  rcases h with h | h <;> simp [wordExpr, ↓run_bind, hfree, h]

lemma run_wordExpr_alone (hfree : w.key ∉ reservedWords) (h : s.tokenAt i ∈ operandEnds) :
    wordExpr g interval w place s i = (.ok (.name [.ofWord w]), i) := by
  simp only [reservedWords, operandWords, typeWords, List.mem_append, List.mem_cons, not_or,
    List.not_mem_nil] at hfree
  obtain ⟨hparen, hperiod, hbrace, -, hstring⟩ := not_opening_of_mem h
  simp only [wordExpr, ↓run_bind, run_dialect, run_peekToken]
  simp [hfree, hbrace]
  clear hfree
  split
  · exact absurd ‹_› hparen
  · exact absurd ‹_› hperiod
  · exact absurd ‹_› (hstring _ _)
  · exact absurd ‹_› (hstring _ _)
  · exact absurd ‹_› (hstring _ _)
  · rfl

lemma run_compound {first : Ident} {n : List Ident} (hshows : s.shows i (partTokens n))
    (hend : s.tokenAt (i + (partTokens n).length) ≠ .symbol .period) :
    compound g interval first s i =
      if s.tokenAt (i + (partTokens n).length) = .symbol .lParen then
        functionCall g interval (first :: n) s (i + (partTokens n).length)
      else (.ok (.name (first :: n)), i + (partTokens n).length) := by
  refine (run_bind_ok run_dialect).trans ((run_bind_ok (run_many_parts hshows ?_ ?_)).trans ?_)
  · intro i w hperiod hword
    have hplaced : (s.placedAt (i + 1)).token = .word w := hword
    simp [↓run_bind, run_symbol_true hperiod, hplaced]
  · simp [↓run_bind, run_symbol_false hend]
  · rw [run_bind_ok (run_symbols_cons_false _ hend), if_neg Bool.false_ne_true]
    by_cases hparen : s.tokenAt (i + (partTokens n).length) = .symbol .lParen
    · simp [↓run_bind, hparen]
    · simp [↓run_bind, hparen]

end Words

section Arguments

lemma run_identifier {w : Word} (h : s.tokenAt i = .word w) :
    identifier s i = (.ok (.ofWord w), i + 1) := by
  have hplaced : (s.placedAt i).token = .word w := h
  simp [identifier, ↓run_bind, hplaced]

lemma run_wildcardOr {e : Expr} (hbegin : (s.tokenAt i).beginsExpr = true) (hopens : s.opensAt i)
    (he : g.expr s i = (.ok e, j)) : wildcardOr g s i = (.ok (pieceOf e), j) := by
  have hplaced : (s.placedAt i).token = s.tokenAt i := rfl
  obtain hnone | ⟨w, n, hword, hparts, hend⟩ := hopens
  · cases htoken : s.tokenAt i with
    | symbol c =>
      cases c with
      | lParen => simp [wildcardOr, ↓run_bind, hplaced, htoken, he]
      | minus => simp [wildcardOr, ↓run_bind, hplaced, htoken, he]
      | _ => rw [htoken] at hbegin; cases hbegin
    | string kind b =>
      cases kind with
      | single => simp [wildcardOr, ↓run_bind, hplaced, htoken, hnone, he]
      | _ => rw [htoken] at hbegin; cases hbegin
    | word w => simp [wildcardOr, ↓run_bind, hplaced, htoken, hnone, he]
    | number digits long => simp [wildcardOr, ↓run_bind, hplaced, htoken, he]
    | _ => rw [htoken] at hbegin; cases hbegin
  · by_cases hperiod : s.tokenAt (i + 1) = .symbol .period
    · refine (run_bind_ok run_get).trans ((run_bind_ok run_next).trans ?_)
      simp only [hplaced, hword]
      refine (run_bind_ok (run_atSymbol _)).trans ?_
      rw [hperiod]
      simp only [BEq.rfl, if_true]
      refine (run_bind_ok (run_set i)).trans ((run_bind_ok (run_identifier hword)).trans
        ((run_bind_ok (run_many_parts hparts ?_ ?_)).trans
          ((run_bind_ok (run_symbols_cons_false [.mul] hend)).trans ?_)))
      · intro i w hperiod hword
        have hplaced : (s.placedAt (i + 1)).token = .word w := hword
        simp [↓run_bind, run_symbol_true hperiod, hplaced]
      · simp [↓run_bind, run_symbol_false hend]
      · simp [↓run_bind, he]
    · simp [wildcardOr, ↓run_bind, hplaced, hword, hperiod, he]

end Arguments

section Calls

lemma run_duplicates {dup : String} {ds : List Token} (h : (dup, ds) ∈ duplicateTokens)
    (hshows : s.shows i ds) (hend : (s.tokenAt (i + ds.length)).key ∉ ["ALL", "DISTINCT"]) :
    duplicates s i = (.ok dup, i + ds.length) := by
  simp only [List.mem_cons, List.not_mem_nil, or_false, not_or] at hend
  simp only [duplicateTokens, List.mem_cons, List.not_mem_nil, or_false, Prod.mk.injEq] at h
  rcases h with ⟨rfl, rfl⟩ | ⟨rfl, rfl⟩ | ⟨rfl, rfl⟩
  · simp only [List.length_nil, Nat.add_zero] at hend
    simp [duplicates, ↓run_bind, run_keyword_false hend.1, run_keyword_false hend.2]
  · have hkey : (s.tokenAt i).key = "DISTINCT" := by rw [hshows.1.2]; rfl
    simp [duplicates, ↓run_bind, run_keyword, hkey]
  · have hkey : (s.tokenAt i).key = "ALL" := by rw [hshows.1.2]; rfl
    have hnext : (s.tokenAt (i + 1)).key ≠ "DISTINCT" := hend.2
    simp [duplicates, ↓run_bind, run_keyword, hkey, hnext]

lemma run_argumentList {dup : String} {items : List (List Piece)} {k : Nat}
    (hfirst : s.tokenAt i ≠ .symbol .rParen) (hdup : duplicates s i = (.ok dup, k))
    (hitems : commaSeparated (functionArgument g) s k = (.ok items, j))
    (hclose : s.tokenAt j = .symbol .rParen) :
    argumentList g s i = (.ok (.text dup :: commaPieces items, false), j + 1) := by
  have hkey : (s.tokenAt j).key = "" := by rw [hclose]; rfl
  have hno : ∀ k, k ≠ "" → keyword k s j = (.ok false, j) := fun k hk =>
    run_keyword_false (by rw [hkey]; exact hk.symm)
  have hnulls : nullTreatment? s j = (.ok none, j) := by
    simp [nullTreatment?, ↓run_bind, run_oneOf?_none, hkey]
  have horder : keywords ["ORDER", "BY"] s j = (.ok false, j) :=
    run_keywords_cons_false _ (by simp [hkey])
  have hoverflow : onOverflow g s j = (.ok [], j) := by
    have hon : keywords ["ON", "OVERFLOW"] s j = (.ok false, j) :=
      run_keywords_cons_false _ (by simp [hkey])
    simp [onOverflow, ↓run_bind, hon]
  by_cases hd : s.dialect = .generic <;>
    simp [argumentList, ↓run_bind, run_symbol_false hfirst, hdup, hitems, hd, hnulls,
      horder, hno, run_both_pure_false, hoverflow, run_expectSymbol hclose, text]

lemma run_functionCall {interval : Parser Expr} {name : Name} {arguments : List Piece}
    (hopen : s.tokenAt i = .symbol .lParen)
    (harguments : argumentList g s (i + 1) = (.ok (arguments, false), j))
    (hend : s.tokenAt j ∈ operandEnds) :
    functionCall g interval name s i = (.ok (.call name (inPieceParens arguments)), j) := by
  have hkeys : ∀ t ∈ operandEnds, t.key ∉ ["WITHIN", "FILTER", "RESPECT", "IGNORE", "OVER"] := by
    decide
  have hkey := hkeys _ hend
  simp only [List.mem_cons, List.not_mem_nil, or_false, not_or] at hkey
  obtain ⟨hwithin, hfilter, hrespect, hignore, hover⟩ := hkey
  have hparen := run_symbol_false (not_opening_of_mem hend).1
  have hgroup : keywords ["WITHIN", "GROUP"] s j = (.ok false, j) :=
    run_keywords_cons_false _ hwithin
  have haggregate : aggregateFilter g s j = (.ok [], j) := by
    simp [aggregateFilter, ↓run_bind, run_both_isAny_false,
      run_both_false (run_keyword_false hfilter)]
  have hnulls : nullTreatment? s j = (.ok none, j) := by
    simp [nullTreatment?, ↓run_bind, run_oneOf?_none, hrespect, hignore]
  have hwindow : overClause g interval s j = (.ok [], j) := by
    simp [overClause, ↓run_bind, run_keyword_false hover]
  simp [functionCall, ↓run_bind, run_expectSymbol hopen, harguments, run_both_isAny_false hparen,
    hgroup, haggregate, hnulls, hwindow]

end Calls

section Operands

lemma run_operand {e : Expr} (hs : s.IsUsual) (hkey : (s.tokenAt i).key ∉ typeWords)
    (he : ∀ interval, tokenExpr g interval (s.placedAt i) s (i + 1) = (.ok e, j))
    (hend : (s.tokenAt j).key ≠ "COLLATE") : operand g s i = (.ok e, j) := by
  simp [operand, operandWithin, ↓run_bind, run_typedLiteral g _ hs.no_bracket hkey, he,
    run_keyword_false hend]

lemma run_tokenExpr_word {interval : Parser Expr} {w : Word} (h : s.tokenAt i = .word w) (k : Nat) :
    tokenExpr g interval (s.placedAt i) s k =
      wordExpr g interval w (s.placedAt i).place s k := by
  have hplaced : (s.placedAt i).token = .word w := h
  simp [tokenExpr, ↓run_bind, hplaced]

lemma shows_parts {n : List Ident} (h : s.shows i (partTokens n)) :
    n = [] ∨ s.tokenAt i = .symbol .period := by
  cases n with
  | nil => exact .inl rfl
  | cons j n => exact .inr h.1.2

lemma run_literalExpr {e : String} (hvalue : value s i = (.ok e, i + 1)) : literalExpr s (i + 1) = (.ok (.value e), i + 1) := by
  simp [literalExpr, ↓run_bind, hvalue]

lemma key_not_mem_of_beginsExpr {t : Token} (ks : List String)
    (hks : ∀ k ∈ ks, k ≠ "" ∧ k ∈ clauseWords) (h : t.beginsExpr = true) : t.key ∉ ks := by
  intro hmem
  obtain ⟨hempty, hclause⟩ := hks _ hmem
  cases t with
  | word w => simp [Token.beginsExpr, Token.key] at h hclause; exact h hclause
  | _ => exact hempty rfl

lemma shows_parens {ts : List Token}
    (h : s.shows i (.symbol .lParen :: ts ++ [Token.symbol .rParen])) :
    s.tokenAt i = .symbol .lParen ∧ s.shows (i + 1) ts ∧
      s.tokenAt (i + 1 + ts.length) = .symbol .rParen ∧
      i + (.symbol .lParen :: ts ++ [Token.symbol .rParen]).length = i + 1 + ts.length + 1 := by
  obtain ⟨⟨⟨-, hopen⟩, hinner⟩, ⟨-, hclose⟩, -⟩ := Source.shows_append.1 h
  have hlength : i + (.symbol .lParen :: ts).length = i + 1 + ts.length := by
    rw [List.length_cons]
    omega
  rw [hlength] at hclose
  exact ⟨hopen, hinner, hclose, by simp only [List.length_append, List.length_cons, List.length_nil]; omega⟩

/-- In parentheses, an expression or a query. -/
lemma run_parenExpr_nested {e : Expr} (hquery : (s.tokenAt i).key ∉ ["SELECT", "WITH"])
    (he : commaSeparated g.expr s i = (.ok [e], j)) (hclose : s.tokenAt j = .symbol .rParen)
    (hperiod : s.tokenAt (j + 1) ≠ .symbol .period) :
    parenExpr g s i = (.ok (.nested e), j + 1) := by
  simp only [List.mem_cons, List.not_mem_nil, or_false, not_or] at hquery
  simp [parenExpr, atQuery, ↓run_bind, hquery, he, run_expectSymbol hclose,
    run_symbol_false hperiod]

lemma run_parenExpr_query {q : Query} (hquery : (s.tokenAt i).key ∈ ["SELECT", "WITH"])
    (hq : g.query s i = (.ok q, j)) (hclose : s.tokenAt j = .symbol .rParen)
    (hperiod : s.tokenAt (j + 1) ≠ .symbol .period) :
    parenExpr g s i = (.ok (.form [.text "(", .query q, .text ")"]), j + 1) := by
  have hcontains : ["SELECT", "WITH"].contains (s.tokenAt i).key = true := by simpa using hquery
  simp only [parenExpr, atQuery, ↓run_bind, run_peekKey, run_pure, hcontains, if_true, hq,
    run_expectSymbol hclose, run_symbol_false hperiod, Bool.false_eq_true, if_false]

lemma run_existsExpr {q : Query} (negated : Bool) (hopen : s.tokenAt i = .symbol .lParen)
    (hq : g.query s (i + 1) = (.ok q, j)) (hclose : s.tokenAt j = .symbol .rParen) :
    existsExpr g negated s i =
      (.ok (.form [.text (if negated then "NOT EXISTS (" else "EXISTS ("), .query q, .text ")"]),
        j + 1) := by
  simp [existsExpr, ↓run_bind, run_parenthesized hopen hq hclose]

variable (hs : s.IsUsual) (hF : F.Regular) (hread : F.ReadBy s g)

include hs hF hread

lemma reads_argument {ps : List Piece} {ts : List Token} (h : ArgumentForm F ps ts) :
    Reads s (functionArgument g) ts ps (s.ends [.symbol .comma, .symbol .rParen]) := by
  intro i hshows hend
  have harrow : s.tokenAt (i + 1) ≠ .symbol .rArrow := fun h =>
    hs (i + 1) (by rw [h]; decide)
  have hassign : s.tokenAt (i + 1) ≠ .symbol .assignment := fun h =>
    hs (i + 1) (by rw [h]; decide)
  have hargument : functionArgument g s i = wildcardOr g s i := by
    by_cases hd : s.dialect = .generic <;>
      simp [functionArgument, ↓run_bind, harrow, hassign, hd]
  rw [hargument]
  cases h with
  | all =>
    have hplaced : (s.placedAt i).token = .symbol .mul := hshows.1.2
    simp [wildcardOr, ↓run_bind, hplaced, text]
  | @expr e ts h =>
    have hhalts : s.halts 0 (i + ts.length) := (hend.mono (by decide)).halts 0
    obtain ⟨t, us, rfl, hbegin⟩ := hF.begins _ _ _ h
    refine run_wildcardOr ?_ (hread.opens _ _ _ h i hshows hhalts.1)
      (hread.expr _ _ _ h i hshows hhalts)
    rw [hshows.1.2]
    exact hbegin

omit hs hF in
lemma reads_exprs {es : List Expr} {ts : List Token} (h : Commas (F.expr 0) es ts) :
    Reads s (commaSeparated g.expr) ts es (s.ends listEnds) :=
  Reads.commaSeparated _ (fun e ts he i hshows hend => hread.expr 0 e ts he i hshows (hend.halts 0))
    (by decide) h

omit hs hread in
lemma argument_begins {ps : List Piece} {ts : List Token} (h : ArgumentForm F ps ts) :
    ∃ t us, ts = t :: us ∧ t ≠ .symbol .rParen ∧ t.key ∉ ["ALL", "DISTINCT"] := by
  cases h with
  | all => exact ⟨_, _, rfl, by decide, by decide⟩
  | expr h =>
    obtain ⟨t, us, rfl, hbegin⟩ := hF.begins _ _ _ h
    refine ⟨t, us, rfl, ?_, key_not_mem_of_beginsExpr _ (by decide) hbegin⟩
    rintro rfl
    cases hbegin

omit hF hread in
/-- A name that an argument list follows is that of a function. -/
lemma run_call {j : Ident} {n : Name} {arguments : List Piece} {k : Nat}
    (first : IsPlainName s.dialect j) (hname : s.shows i (Name.tokens (j :: n)))
    (hopen : s.tokenAt (i + (Name.tokens (j :: n)).length) = .symbol .lParen)
    (harguments : argumentList g s (i + (Name.tokens (j :: n)).length + 1) =
      (.ok (arguments, false), k))
    (hend : s.ends operandEnds k) :
    operand g s i = (.ok (.call (j :: n) (inPieceParens arguments)), k) := by
  have hlength : i + (Name.tokens (j :: n)).length = i + 1 + (partTokens n).length := by
    rw [tokens_cons, List.length_cons]
    omega
  rw [hlength] at hopen harguments
  rw [tokens_cons] at hname
  obtain ⟨⟨-, hword⟩, hparts⟩ := hname
  have hkey : (s.tokenAt i).key ∉ typeWords := by
    rw [hword]
    exact fun hmem => first.free (List.mem_append_left _ (List.mem_append_left _ hmem))
  refine run_operand hs hkey (fun interval => ?_) (not_opening_of_mem hend).2.2.2.1
  have hfollowing : s.tokenAt (i + 1) = .symbol .lParen ∨ s.tokenAt (i + 1) = .symbol .period := by
    obtain rfl | hperiod := shows_parts hparts
    · exact .inl hopen
    · exact .inr hperiod
  rw [run_tokenExpr_word hword, run_wordExpr_opening first.free hfollowing,
    run_compound hparts (by rw [hopen]; decide), if_pos hopen, Ident.ofWord_word]
  exact run_functionCall hopen harguments hend

omit hs hF in
/-- A branch follows the keyword `WHEN`. -/
lemma run_caseBranch {ps : List Piece} {ts : List Token} (h : BranchForm F ps ts)
    (hshows : s.shows i ts) (hend : s.ends exprEnds (i + ts.length)) :
    s.tokenAt i = .keyword "WHEN" ∧ caseBranch g s (i + 1) = (.ok ps, i + ts.length) := by
  cases h with
  | @mk test result ts us tested chosen =>
    obtain ⟨⟨⟨-, hwhen⟩, hts⟩, ⟨-, hthen⟩, hus⟩ := Source.shows_append.1 hshows
    have hafter : i + (Token.keyword "WHEN" :: ts).length = i + 1 + ts.length := by
      rw [List.length_cons]
      omega
    have hlength : i + (.keyword "WHEN" :: ts ++ Token.keyword "THEN" :: us).length =
        i + 1 + ts.length + 1 + us.length := by
      rw [List.length_append, ← Nat.add_assoc, hafter, List.length_cons]
      omega
    rw [hafter] at hthen hus
    rw [hlength] at hend ⊢
    have htest : g.expr s (i + 1) = _ := hread.expr _ _ _ tested _ hts
      (Source.ends.halts (Source.ends_of_eq hthen (by decide)) 0)
    have hresult : g.expr s (i + 1 + ts.length + 1) = _ :=
      hread.expr _ _ _ chosen _ hus (hend.halts 0)
    have hkey : (s.tokenAt (i + 1 + ts.length)).key = "THEN" := by rw [hthen]; rfl
    exact ⟨hwhen, by simp [caseBranch, ↓run_bind, htest, run_expectKeyword hkey, hresult]⟩

def caseEnds : List Token := ["ELSE", "END"].map .keyword

omit hs hF in
lemma steps_caseBranches {branches : List (List Piece)} {ts : List Token}
    (h : Row (BranchForm F) branches ts) {i : Nat} (hshows : s.shows i ts)
    (hend : s.ends caseEnds (i + ts.length)) :
    s.ends exprEnds i ∧ branches.length ≤ ts.length ∧
      Steps s (do if ← keyword "WHEN" then some <$> caseBranch g else return none) i branches
        (i + ts.length) := by
  induction h generalizing i with
  | nil =>
    replace hend : s.ends caseEnds i := hend
    refine ⟨hend.mono (by decide), Nat.le_refl _, .nil ?_⟩
    simp [↓run_bind, run_keyword_false (hend.key_ne (k := "WHEN") (by decide))]
  | @cons ps branches ts us h others ih =>
    obtain ⟨hts, hus⟩ := Source.shows_append.1 hshows
    rw [List.length_append, ← Nat.add_assoc] at hend ⊢
    obtain ⟨hnext, hfew, hsteps⟩ := ih hus hend
    obtain ⟨hwhen, hbranch⟩ := run_caseBranch hread h hts hnext
    have hkey : (s.tokenAt i).key = "WHEN" := by rw [hwhen]; rfl
    refine ⟨Source.ends_of_eq hwhen (by decide), ?_, .cons ?_ hsteps⟩
    · have hlength := Source.length_le_of_shows hts
      cases h
      simp only [List.length_cons, List.length_append]
      omega
    · simp [↓run_bind, run_map, run_keyword_true hkey, hbranch]

omit hs hF in
lemma run_caseBranches {branches : List (List Piece)} {ts : List Token}
    (h : Row (BranchForm F) branches ts) (nonempty : branches ≠ []) (hshows : s.shows i ts)
    (hend : s.ends caseEnds (i + ts.length)) :
    s.tokenAt i = .keyword "WHEN" ∧
      separated (keyword "WHEN") (caseBranch g) s (i + 1) = (.ok branches, i + ts.length) := by
  cases h with
  | nil => exact absurd rfl nonempty
  | @cons ps branches ts us h others =>
    obtain ⟨hts, hus⟩ := Source.shows_append.1 hshows
    have hsize := Source.length_le_of_shows hus
    rw [List.length_append, ← Nat.add_assoc] at hend ⊢
    obtain ⟨hnext, hfew, hsteps⟩ := steps_caseBranches hread others hus hend
    obtain ⟨hwhen, hbranch⟩ := run_caseBranch hread h hts hnext
    have hmany := run_many hsteps (by omega)
    exact ⟨hwhen, by simp [separated, ↓run_bind, hbranch, hmany]⟩

omit hs in
/-- What stands before the first branch is told from it by the keyword `WHEN`. -/
lemma run_caseSubject {subject : List Piece} {ts : List Token} (h : SubjectForm F subject ts)
    (hshows : s.shows i ts) (hwhen : s.tokenAt (i + ts.length) = .keyword "WHEN") :
    (keyword "WHEN" s i = (.ok true, i + ts.length + 1) ∧ subject = []) ∨
      ∃ e, keyword "WHEN" s i = (.ok false, i) ∧ g.expr s i = (.ok e, i + ts.length) ∧
        expectKeyword "WHEN" s (i + ts.length) = (.ok ⟨⟩, i + ts.length + 1) ∧
        subject = [.text " ", .expr e] := by
  have hkey : (s.tokenAt (i + ts.length)).key = "WHEN" := by
    rw [hwhen]
    rfl
  cases h with
  | none => exact .inl ⟨run_keyword_true hkey, rfl⟩
  | @some e ts h unmerged =>
    have hfirst : (s.tokenAt i).key ≠ "WHEN" := by
      obtain ⟨t, ts, rfl, -⟩ := hF.begins _ _ _ h
      rw [hshows.1.2]
      exact unmerged t rfl
    exact .inr ⟨e, run_keyword_false hfirst, hread.expr _ _ _ h _ hshows
      (Source.ends.halts (Source.ends_of_eq hwhen (by decide)) 0), run_expectKeyword hkey, rfl⟩

omit hs hF in
lemma run_otherwise {otherwise : List Piece} {ts : List Token} (h : OtherwiseForm F otherwise ts)
    (hshows : s.shows i ts) (hend : s.tokenAt (i + ts.length) = .keyword "END") :
    ((keyword "ELSE" s i = (.ok false, i + ts.length) ∧ otherwise = []) ∨
      ∃ e, keyword "ELSE" s i = (.ok true, i + 1) ∧ g.expr s (i + 1) = (.ok e, i + ts.length) ∧
        otherwise = [.text " ELSE ", .expr e]) ∧ s.ends caseEnds i := by
  cases h with
  | none =>
    have hends : s.ends [.keyword "END"] i := Source.ends_of_eq hend (by decide)
    exact ⟨.inl ⟨run_keyword_false (hends.key_ne (by decide)), rfl⟩,
      hends.mono (by decide)⟩
  | @some e ts h =>
    obtain ⟨⟨-, helse⟩, hts⟩ := hshows
    rw [List.length_cons, Nat.add_comm ts.length, ← Nat.add_assoc] at hend ⊢
    have hkey : (s.tokenAt i).key = "ELSE" := by
      rw [helse]
      rfl
    exact ⟨.inr ⟨e, run_keyword_true hkey, hread.expr _ _ _ h _ hts
      (Source.ends.halts (Source.ends_of_eq hend (by decide)) 0), rfl⟩,
      Source.ends_of_eq helse (by decide)⟩

omit hs in
lemma run_caseExpr {subject otherwise : List Piece} {branches : List (List Piece)}
    {ts us vs : List Token} (compared : SubjectForm F subject ts) (nonempty : branches ≠ [])
    (tried : Row (BranchForm F) branches us) (last : OtherwiseForm F otherwise vs)
    (hshows : s.shows i (.keyword "CASE" :: ts ++ us ++ vs ++ [Token.keyword "END"])) :
    caseExpr g s (i + 1) =
      (.ok (.form (text "CASE" ++ subject ++ branches.flatten ++ otherwise ++ text " END")),
        i + (.keyword "CASE" :: ts ++ us ++ vs ++ [Token.keyword "END"]).length) := by
  obtain ⟨hshows, ⟨-, hlast⟩, -⟩ := Source.shows_append.1 hshows
  obtain ⟨hshows, hvs⟩ := Source.shows_append.1 hshows
  obtain ⟨⟨-, hts⟩, hus⟩ := Source.shows_append.1 hshows
  have hone : i + (.keyword "CASE" :: ts).length = i + 1 + ts.length := by
    rw [List.length_cons]
    omega
  simp only [List.length_append, ← Nat.add_assoc, hone, List.length_singleton] at hlast hvs hus ⊢
  have hend : expectKeyword "END" s (i + 1 + ts.length + us.length + vs.length) =
      (.ok ⟨⟩, i + 1 + ts.length + us.length + vs.length + 1) :=
    run_expectKeyword (by rw [hlast]; rfl)
  obtain ⟨hotherwise, hends⟩ := run_otherwise hread last hvs hlast
  obtain ⟨hwhen, hbranches⟩ := run_caseBranches hread tried nonempty hus hends
  have hsubject := run_caseSubject hF hread compared hts hwhen
  rcases hotherwise with ⟨helse, rfl⟩ | ⟨last, helse, hlast, rfl⟩ <;>
    rcases hsubject with ⟨hfirst, rfl⟩ | ⟨e, hfirst, he, hnext, rfl⟩
  · simp [caseExpr, ↓run_bind, hfirst, hbranches, helse, hend]
  · simp [caseExpr, ↓run_bind, hfirst, he, hnext, hbranches, helse, hend]
  · simp [caseExpr, ↓run_bind, hfirst, hbranches, helse, hlast, hend]
  · simp [caseExpr, ↓run_bind, hfirst, he, hnext, hbranches, helse, hlast, hend]

lemma reads_operand {e : Expr} {ts : List Token} (h : OperandForm s.dialect F e ts) :
    Reads s (operand g) ts e (s.ends operandEnds) := by
  intro i hshows hend
  obtain ⟨hparen, hperiod, -, hcollate, -⟩ := not_opening_of_mem hend
  have hplaced : (s.placedAt i).token = s.tokenAt i := rfl
  have hempty : "" ∉ typeWords := by decide
  cases h with
  | @name j n first others =>
    rw [tokens_cons] at hshows hend hcollate hparen hperiod ⊢
    obtain ⟨⟨-, hword⟩, hparts⟩ := hshows
    have hlength : i + (Token.word j.word :: partTokens n).length =
        i + 1 + (partTokens n).length := by rw [List.length_cons]; omega
    rw [hlength] at hend hcollate hparen hperiod ⊢
    refine run_operand hs ?_ (fun interval => ?_) hcollate
    · rw [hword]
      exact fun hmem => first.free (List.mem_append_left _ (List.mem_append_left _ hmem))
    · rw [run_tokenExpr_word hword]
      obtain rfl | hfollowing := shows_parts hparts
      · have halone : wordExpr g interval j.word (s.placedAt i).place s (i + 1) = _ :=
          run_wordExpr_alone first.free hend
        rw [Ident.ofWord_word] at halone
        exact halone
      · rw [run_wordExpr_opening first.free (.inr hfollowing), run_compound hparts hperiod,
          if_neg hparen, Ident.ofWord_word]
  | @number digits numeral =>
    have hvalue : value s i = (.ok digits, i + 1) := by
      simp [value, ↓run_bind, hplaced, hshows.1.2]
    refine run_operand hs (by rw [hshows.1.2]; exact hempty) (fun interval => ?_) hcollate
    simp [tokenExpr, ↓run_bind, hplaced, hshows.1.2, run_literalExpr hvalue]
  | @string body rereads =>
    have hvalue : value s i = (.ok (Literal.single body), i + 1) := by
      simp [value, ↓run_bind, hplaced, hshows.1.2, Literal.string, Literal.single]
    refine run_operand hs (by rw [hshows.1.2]; exact hempty) (fun interval => ?_) hcollate
    simp [tokenExpr, ↓run_bind, hplaced, hshows.1.2, run_literalExpr hvalue]
  | @truth w known =>
    simp only [List.mem_cons, List.not_mem_nil, or_false] at known
    rcases known with rfl | rfl
    · have hword : s.tokenAt i = .word ⟨"true", none, "TRUE"⟩ := hshows.1.2
      have hvalue : value s i = (.ok "true", i + 1) := by
        simp [value, ↓run_bind, hplaced, hword]
      refine run_operand hs (by rw [hword]; decide) (fun interval => ?_) hcollate
      rw [run_tokenExpr_word hword]
      simp [wordExpr, ↓run_bind, hvalue]
    · have hword : s.tokenAt i = .word ⟨"false", none, "FALSE"⟩ := hshows.1.2
      have hvalue : value s i = (.ok "false", i + 1) := by
        simp [value, ↓run_bind, hplaced, hword]
      refine run_operand hs (by rw [hword]; decide) (fun interval => ?_) hcollate
      rw [run_tokenExpr_word hword]
      simp [wordExpr, ↓run_bind, hvalue]
  | null =>
    have hvalue : value s i = (.ok "NULL", i + 1) := by
      simp [value, ↓run_bind, hplaced, hshows.1.2, Token.keyword]
    refine run_operand hs (by rw [hshows.1.2]; decide) (fun interval => ?_) hcollate
    rw [run_tokenExpr_word hshows.1.2]
    simp [wordExpr, ↓run_bind, hvalue]
  | @nested e ts inner =>
    obtain ⟨hopen, hinner, hclose, hlength⟩ := shows_parens hshows
    rw [hlength] at hcollate hperiod ⊢
    have hlist := reads_exprs hread (.one inner) (i + 1) hinner (Source.ends_of_eq hclose (by decide))
    have hquery : (s.tokenAt (i + 1)).key ∉ ["SELECT", "WITH"] := by
      obtain ⟨t, us, rfl, hbegin⟩ := hF.begins _ _ _ inner
      rw [hinner.1.2]
      exact key_not_mem_of_beginsExpr _ (by decide) hbegin
    refine run_operand hs (by rw [hopen]; exact hempty) (fun interval => ?_) hcollate
    simp [tokenExpr, ↓run_bind, hplaced, hopen, run_parenExpr_nested hquery hlist hclose hperiod]
  | @query q ts inner unwrapped =>
    obtain ⟨hopen, hinner, hclose, hlength⟩ := shows_parens hshows
    rw [hlength] at hcollate hperiod ⊢
    have hq := hread.query _ _ inner (i + 1) hinner (Source.ends_of_eq hclose (by decide))
    have hquery := hF.key_of_shows inner unwrapped hinner
    refine run_operand hs (by rw [hopen]; exact hempty) (fun interval => ?_) hcollate
    simp [tokenExpr, ↓run_bind, hplaced, hopen, run_parenExpr_query hquery hq hclose hperiod]
  | @«exists» q negated ts inner =>
    cases negated with
    | false =>
      obtain ⟨⟨-, hword⟩, hshows⟩ := hshows
      obtain ⟨hopen, hinner, hclose, hlength⟩ := shows_parens hshows
      have hall : i + (negationTokens false ++
          Token.keyword "EXISTS" :: .symbol .lParen :: ts ++ [Token.symbol .rParen]).length =
            i + 1 + 1 + ts.length + 1 := by simp [negationTokens]; omega
      rw [hall] at hcollate ⊢
      have hq := hread.query _ _ inner _ hinner (Source.ends_of_eq hclose (by decide))
      refine run_operand hs (by rw [hword]; decide) (fun interval => ?_) hcollate
      rw [run_tokenExpr_word hword]
      refine (run_bind_ok run_dialect).trans ((run_bind_ok run_peekToken).trans ?_)
      exact run_existsExpr false hopen hq hclose
    | true =>
      obtain ⟨⟨-, hword⟩, ⟨-, hexists⟩, hshows⟩ := hshows
      obtain ⟨hopen, hinner, hclose, hlength⟩ := shows_parens hshows
      have hall : i + (negationTokens true ++
          Token.keyword "EXISTS" :: .symbol .lParen :: ts ++ [Token.symbol .rParen]).length =
            i + 1 + 1 + 1 + ts.length + 1 := by simp [negationTokens]; omega
      rw [hall] at hcollate ⊢
      have hq := hread.query _ _ inner _ hinner (Source.ends_of_eq hclose (by decide))
      have hkey : (s.tokenAt (i + 1)).key = "EXISTS" := by rw [hexists]; rfl
      refine run_operand hs (by rw [hword]; decide) (fun interval => ?_) hcollate
      rw [run_tokenExpr_word hword]
      refine (run_bind_ok run_dialect).trans ((run_bind_ok run_peekToken).trans ?_)
      exact (run_bind_ok (run_keyword_true hkey)).trans (run_existsExpr true hopen hq hclose)
  | @call j n dup items ds ts first others counted arguments =>
    obtain ⟨hname, hparens⟩ := Source.shows_append.1 (by rwa [List.append_assoc] at hshows)
    obtain ⟨hopen, hinner, hclose, hlength⟩ := shows_parens hparens
    have hall : i + (Name.tokens (j :: n) ++ .symbol .lParen :: (ds ++ ts) ++
        [Token.symbol .rParen]).length = i + (Name.tokens (j :: n)).length + 1
          + (ds ++ ts).length + 1 := by
      rw [List.append_assoc, List.length_append, ← Nat.add_assoc, hlength]
    rw [hall] at hend hcollate ⊢
    refine run_call hs first hname hopen ?_ hend
    obtain ⟨hds, hts⟩ := Source.shows_append.1 hinner
    rw [List.length_append, ← Nat.add_assoc] at hclose ⊢
    have hitems := Reads.commaSeparated [.symbol .rParen]
      (fun _ _ => reads_argument hs hF hread) (by decide) arguments _ hts
      (Source.ends_of_eq hclose (by decide))
    obtain ⟨t, us, rfl, hnonempty, hkey⟩ := arguments.begins fun _ _ => argument_begins hF
    rw [← hts.1.2] at hnonempty hkey
    refine run_argumentList ?_ (run_duplicates counted hds hkey) hitems hclose
    have hdups : ∀ o ∈ duplicateTokens, ∀ t ∈ o.2.head?, t ≠ .symbol .rParen := by decide
    cases ds with
    | nil => exact hnonempty
    | cons t ds =>
      rw [hds.1.2]
      exact hdups _ counted t rfl
  | @callEmpty j n first others =>
    obtain ⟨hname, ⟨-, hopen⟩, ⟨-, hclose⟩, -⟩ := Source.shows_append.1 hshows
    have hall : i + (Name.tokens (j :: n) ++ [Token.symbol .lParen, .symbol .rParen]).length =
        i + (Name.tokens (j :: n)).length + 1 + 1 := by
      rw [List.length_append]
      rfl
    rw [hall] at hend hcollate ⊢
    refine run_call hs first hname hopen ?_ hend
    simp [argumentList, ↓run_bind, run_symbol_true hclose]
  | choice compared nonempty tried last =>
    refine run_operand hs (by rw [hshows.1.2]; decide) (fun interval => ?_) hcollate
    rw [run_tokenExpr_word hshows.1.2]
    refine (run_bind_ok run_dialect).trans ((run_bind_ok run_peekToken).trans ?_)
    exact run_caseExpr hF hread compared nonempty tried last hshows

end Operands

end Parser

end RowFence.Sql
