import RowFence.Proofs.Sql.OperandReading

/-! Expressions are read from their tokens as they were written: operators bind as their strengths
say. -/

namespace RowFence.Sql.Parser

variable {s : Source} {g : Grammar} {F : Forms} {i j : Nat}

section Operators

/-- The strength of an operator does not depend on what follows it. -/
lemma strengthAt_operator {op : BinaryOp} {t : Token} (h : (op, t) ∈ operatorTokens)
    (ht : s.tokenAt i = t) : s.strengthAt i = t.strength s.dialect := by
  simp only [operatorTokens, List.mem_cons, List.not_mem_nil, or_false, Prod.mk.injEq] at h
  rcases h with ⟨rfl, rfl⟩ | ⟨rfl, rfl⟩ | ⟨rfl, rfl⟩ | ⟨rfl, rfl⟩ | ⟨rfl, rfl⟩ | ⟨rfl, rfl⟩ |
    ⟨rfl, rfl⟩ | ⟨rfl, rfl⟩ | ⟨rfl, rfl⟩ | ⟨rfl, rfl⟩ | ⟨rfl, rfl⟩ | ⟨rfl, rfl⟩ | ⟨rfl, rfl⟩ |
    ⟨rfl, rfl⟩ | ⟨rfl, rfl⟩ | ⟨rfl, rfl⟩ <;>
    simp [Source.strengthAt, ht, Token.strength, Token.keyword, Level.ofWords?]

lemma run_binaryOp? {op : BinaryOp} {t : Token} (h : (op, t) ∈ operatorTokens)
    (ht : s.tokenAt i = t) : binaryOp? (s.placedAt i) s j = (.ok (some op), j) := by
  have hplaced : (s.placedAt i).token = t := ht
  simp only [operatorTokens, List.mem_cons, List.not_mem_nil, or_false, Prod.mk.injEq] at h
  rcases h with ⟨rfl, rfl⟩ | ⟨rfl, rfl⟩ | ⟨rfl, rfl⟩ | ⟨rfl, rfl⟩ | ⟨rfl, rfl⟩ | ⟨rfl, rfl⟩ |
    ⟨rfl, rfl⟩ | ⟨rfl, rfl⟩ | ⟨rfl, rfl⟩ | ⟨rfl, rfl⟩ | ⟨rfl, rfl⟩ | ⟨rfl, rfl⟩ | ⟨rfl, rfl⟩ |
    ⟨rfl, rfl⟩ | ⟨rfl, rfl⟩ | ⟨rfl, rfl⟩ <;>
    simp [binaryOp?, ↓run_bind, hplaced, Token.keyword, plainOperators] <;> rfl

lemma run_continued_binary {l r : Expr} {op : BinaryOp} {t : Token} {k : Nat}
    (h : (op, t) ∈ operatorTokens) (ht : s.tokenAt i = t)
    (hfirst : (s.tokenAt (i + 1)).key ∉ ["ANY", "ALL", "SOME"])
    (hright : g.subexpr k s (i + 1) = (.ok r, j)) :
    continued g l k s i = (.ok (.binary l op r), j) := by
  have hdiv : ∀ o ∈ operatorTokens, o.2.key ≠ "DIV" := by decide
  have hkey : (s.tokenAt i).key ≠ "DIV" := by
    rw [ht]
    exact hdiv _ h
  simp [continued, ↓run_bind, run_both_pure_false (run_keyword_false hkey),
    run_binaryOp? h ht, run_oneOf?_none hfirst, hright]

def testWords : List String := ["NOT", "IN", "BETWEEN", "LIKE"]

lemma run_continued_test {l : Expr} {w : String} (hw : w ∈ testWords) (k : Nat)
    (h : s.tokenAt i = .keyword w) : continued g l k s i = testExpr g l s i := by
  have hplaced : (s.placedAt i).token = .keyword w := h
  have hkey : (s.tokenAt i).key ≠ "DIV" := by
    rw [h]
    exact (by decide : ∀ w ∈ testWords, w ≠ "DIV") w hw
  simp only [testWords, List.mem_cons, List.not_mem_nil, or_false] at hw
  rcases hw with rfl | rfl | rfl | rfl <;>
    simp [continued, ↓run_bind, run_both_pure_false (run_keyword_false hkey), hplaced, binaryOp?,
      Token.keyword]

lemma run_continued_is {l : Expr} (k : Nat) (h : s.tokenAt i = .keyword "IS") :
    continued g l k s i = isExpr g l s (i + 1) := by
  have hplaced : (s.placedAt i).token = .keyword "IS" := h
  have hkey : (s.tokenAt i).key ≠ "DIV" := by
    rw [h]
    decide
  simp [continued, ↓run_bind, run_both_pure_false (run_keyword_false hkey), hplaced, binaryOp?,
    Token.keyword]

end Operators

section Tests

lemma key_of_keyword {w : String} (h : s.tokenAt i = .keyword w) : (s.tokenAt i).key = w := by
  rw [h]
  rfl

lemma run_isTests {keys : List String} (hkeys : keys ∈ isTests)
    (hshows : s.shows i (keys.map .keyword)) :
    firstKeywords isTests s i = (.ok (some keys), i + keys.length) := by
  have hone : ∀ w, s.shows i [.keyword w] → (s.tokenAt i).key = w := fun w h =>
    key_of_keyword h.1.2
  have hnot : ∀ w, s.shows i [.keyword "NOT", .keyword w] →
      (s.tokenAt i).key = "NOT" ∧ (s.tokenAt (i + 1)).key = w := fun w h =>
    ⟨key_of_keyword h.1.2, key_of_keyword h.2.1.2⟩
  simp only [isTests, List.mem_cons, List.not_mem_nil, or_false] at hkeys
  rcases hkeys with rfl | rfl | rfl | rfl | rfl | rfl | rfl | rfl
  · simp [isTests, firstKeywords, ↓run_bind, run_keywords_one, hone _ hshows]
  · simp [isTests, firstKeywords, ↓run_bind, run_keywords_one, run_keywords_two, hnot _ hshows]
  · simp [isTests, firstKeywords, ↓run_bind, run_keywords_one, run_keywords_two, hone _ hshows]
  · simp [isTests, firstKeywords, ↓run_bind, run_keywords_one, run_keywords_two, hnot _ hshows]
  · simp [isTests, firstKeywords, ↓run_bind, run_keywords_one, run_keywords_two, hone _ hshows]
  · simp [isTests, firstKeywords, ↓run_bind, run_keywords_one, run_keywords_two, hnot _ hshows]
  · simp [isTests, firstKeywords, ↓run_bind, run_keywords_one, run_keywords_two, hone _ hshows]
  · simp [isTests, firstKeywords, ↓run_bind, run_keywords_one, run_keywords_two, hnot _ hshows]

lemma run_isExpr {l : Expr} {keys : List String} (hkeys : keys ∈ isTests)
    (hshows : s.shows i (keys.map .keyword)) :
    isExpr g l s i =
      (.ok (.form [.expr l, .text (" IS " ++ " ".intercalate keys)]), i + keys.length) := by
  simp [isExpr, ↓run_bind, run_isTests hkeys hshows]

variable {l : Expr} {negated : Bool}

/-- Which word tells the test, after its negation if it has one. -/
lemma shows_negation {w : String} (h : s.shows i (negationTokens negated ++ [Token.keyword w])) :
    (s.tokenAt (i + (negationTokens negated).length)).key = w ∧
      (negated = true → (s.tokenAt i).key = "NOT") := by
  obtain ⟨hnot, hword⟩ := Source.shows_append.1 h
  refine ⟨key_of_keyword hword.1.2, ?_⟩
  rintro rfl
  exact key_of_keyword hnot.1.2

lemma shows_negation_parens {w : String} {ts us : List Token}
    (h : s.shows i (ts ++ negationTokens negated ++ .keyword w :: .symbol .lParen :: us
      ++ [Token.symbol .rParen])) :
    s.shows i ts ∧ s.shows (i + ts.length) (negationTokens negated ++ [Token.keyword w]) ∧
      s.tokenAt (i + ts.length + (negationTokens negated).length + 1) = .symbol .lParen ∧
      s.shows (i + ts.length + (negationTokens negated).length + 1 + 1) us ∧
      s.tokenAt (i + ts.length + (negationTokens negated).length + 1 + 1 + us.length) =
        .symbol .rParen ∧
      i + (ts ++ negationTokens negated ++ .keyword w :: .symbol .lParen :: us
        ++ [Token.symbol .rParen]).length =
          i + ts.length + (negationTokens negated).length + 1 + 1 + us.length + 1 := by
  have hassoc : ts ++ negationTokens negated ++ .keyword w :: .symbol .lParen :: us
      ++ [Token.symbol .rParen] =
        ts ++ ((negationTokens negated ++ [Token.keyword w]) ++
          (.symbol .lParen :: us ++ [Token.symbol .rParen])) := by simp
  rw [hassoc] at h ⊢
  obtain ⟨hts, hrest⟩ := Source.shows_append.1 h
  obtain ⟨hword, hparens⟩ := Source.shows_append.1 hrest
  have hlength : i + ts.length + (negationTokens negated ++ [Token.keyword w]).length =
      i + ts.length + (negationTokens negated).length + 1 := by
    rw [List.length_append]
    rfl
  rw [hlength] at hparens
  obtain ⟨hopen, hus, hclose, -⟩ := shows_parens hparens
  refine ⟨hts, hword, hopen, hus, hclose, ?_⟩
  simp only [List.length_append, List.length_cons, List.length_nil]
  omega

lemma run_testExpr_in (h : s.shows i (negationTokens negated ++ [Token.keyword "IN"])) :
    testExpr g l s i =
      inExpr g l (negationText negated) s (i + (negationTokens negated).length + 1) := by
  obtain ⟨hword, hnot⟩ := shows_negation h
  cases negated with
  | false =>
    replace hword : (s.tokenAt i).key = "IN" := hword
    simp [testExpr, ↓run_bind, run_keyword, hword, negationText, negationTokens]
  | true =>
    replace hword : (s.tokenAt (i + 1)).key = "IN" := hword
    simp [testExpr, ↓run_bind, run_keyword, hword, hnot, negationText, negationTokens]

lemma run_testExpr_between {low high : Expr} {m : Nat}
    (h : s.shows i (negationTokens negated ++ [Token.keyword "BETWEEN"]))
    (hlow : g.subexpr (Level.strength s.dialect .between) s
      (i + (negationTokens negated).length + 1) = (.ok low, m))
    (hand : (s.tokenAt m).key = "AND")
    (hhigh : g.subexpr (Level.strength s.dialect .between) s (m + 1) = (.ok high, j)) :
    testExpr g l s i =
      (.ok (.form [.expr l, .text (" " ++ negationText negated ++ "BETWEEN "), .expr low,
        .text " AND ", .expr high]), j) := by
  obtain ⟨hword, hnot⟩ := shows_negation h
  cases negated with
  | false =>
    replace hword : (s.tokenAt i).key = "BETWEEN" := hword
    replace hlow : g.subexpr _ s (i + 1) = _ := hlow
    simp [testExpr, ↓run_bind, run_keyword, hword, hlow, run_expectKeyword hand, hhigh,
      negationText, strength]
  | true =>
    replace hword : (s.tokenAt (i + 1)).key = "BETWEEN" := hword
    replace hlow : g.subexpr _ s (i + 1 + 1) = _ := hlow
    simp [testExpr, ↓run_bind, run_keyword, hword, hnot, hlow, run_expectKeyword hand,
      hhigh, negationText, strength]

lemma run_testExpr_like {pattern : Expr}
    (h : s.shows i (negationTokens negated ++ [Token.keyword "LIKE"]))
    (hany : (s.tokenAt (i + (negationTokens negated).length + 1)).key ≠ "ANY")
    (hpattern : g.subexpr (Level.strength s.dialect .like) s
      (i + (negationTokens negated).length + 1) = (.ok pattern, j))
    (hescape : (s.tokenAt j).key ≠ "ESCAPE") :
    testExpr g l s i =
      (.ok (.form [.expr l, .text (" " ++ (negationText negated ++ "LIKE") ++ " " ++ ""),
        .expr pattern, .text ""]), j) := by
  obtain ⟨hword, hnot⟩ := shows_negation h
  cases negated with
  | false =>
    replace hword : (s.tokenAt i).key = "LIKE" := hword
    replace hpattern : g.subexpr _ s (i + 1) = _ := hpattern
    replace hany : (s.tokenAt (i + 1)).key ≠ "ANY" := hany
    simp [testExpr, likeExpr, escapeClause, ↓run_bind, run_keyword, hword, hpattern,
      run_both_pure_false (run_keyword_false hany), hescape, negationText, strength]
  | true =>
    replace hword : (s.tokenAt (i + 1)).key = "LIKE" := hword
    replace hpattern : g.subexpr _ s (i + 1 + 1) = _ := hpattern
    replace hany : (s.tokenAt (i + 1 + 1)).key ≠ "ANY" := hany
    simp [testExpr, likeExpr, escapeClause, ↓run_bind, run_keyword, hword, hnot, hpattern,
      run_both_pure_false (run_keyword_false hany), hescape, negationText, strength]

/-- The words that tell tests, other than `IS`, and how tightly they bind. -/
def testLevels : List (String × Level) :=
  [("IN", .between), ("BETWEEN", .between), ("LIKE", .like)]

lemma strengthAt_negation {w : String} {level : Level} (hw : (w, level) ∈ testLevels)
    (h : s.shows i (negationTokens negated ++ [Token.keyword w])) :
    s.ends operandEnds i ∧ s.strengthAt i = level.strength s.dialect := by
  simp only [testLevels, List.mem_cons, List.not_mem_nil, or_false, Prod.mk.injEq] at hw
  cases negated with
  | false =>
    have hword := h.1.2
    rcases hw with ⟨rfl, rfl⟩ | ⟨rfl, rfl⟩ | ⟨rfl, rfl⟩ <;>
      exact ⟨Source.ends_of_eq hword (by decide), by
        simp [Source.strengthAt, hword, Token.keyword, Level.ofWords?]⟩
  | true =>
    have hnot : s.tokenAt i = .keyword "NOT" := h.1.2
    have hword : s.tokenAt (i + 1) = .keyword w := h.2.1.2
    rcases hw with ⟨rfl, rfl⟩ | ⟨rfl, rfl⟩ | ⟨rfl, rfl⟩ <;>
      exact ⟨Source.ends_of_eq hnot (by decide), by
        simp [Source.strengthAt, hnot, hword, Token.keyword, Token.key, Level.ofWords?]⟩

lemma run_continued_negation {w : String} {level : Level} (hw : (w, level) ∈ testLevels)
    (h : s.shows i (negationTokens negated ++ [Token.keyword w])) (k : Nat) :
    continued g l k s i = testExpr g l s i := by
  have hwords : ∀ o ∈ testLevels, o.1 ∈ testWords := by decide
  cases negated with
  | false => exact run_continued_test (hwords _ hw) k h.1.2
  | true => exact run_continued_test (by decide) k h.1.2

lemma run_inExpr_list {es : List Expr} (negation : String) (hopen : s.tokenAt i = .symbol .lParen)
    (hquery : (s.tokenAt (i + 1)).key ∉ ["SELECT", "WITH"])
    (hfirst : s.tokenAt (i + 1) ≠ .symbol .rParen)
    (hes : commaSeparated g.expr s (i + 1) = (.ok es, j)) (hclose : s.tokenAt j = .symbol .rParen) :
    inExpr g l negation s i =
      (.ok (.form ([Piece.expr l, .text (" " ++ negation ++ "IN ")] ++
        inPieceParens (exprPieces es))), j + 1) := by
  have hunnest : (s.tokenAt i).key ≠ "UNNEST" := by
    rw [hopen]
    decide
  simp only [List.mem_cons, List.not_mem_nil, or_false, not_or] at hquery
  by_cases hd : s.dialect = .sqlite <;>
    simp [inExpr, atQuery, commaSeparated0, ↓run_bind, run_map, run_keyword_false hunnest,
      run_expectSymbol hopen, hquery, hfirst, hes, run_expectSymbol hclose, hd]

lemma run_inExpr_query {q : Query} (negation : String) (hopen : s.tokenAt i = .symbol .lParen)
    (hquery : (s.tokenAt (i + 1)).key ∈ ["SELECT", "WITH"]) (hq : g.query s (i + 1) = (.ok q, j))
    (hclose : s.tokenAt j = .symbol .rParen) :
    inExpr g l negation s i =
      (.ok (.form ([Piece.expr l, .text (" " ++ negation ++ "IN ")] ++
        inPieceParens [.query q])), j + 1) := by
  have hunnest : (s.tokenAt i).key ≠ "UNNEST" := by
    rw [hopen]
    decide
  have hcontains : ["SELECT", "WITH"].contains (s.tokenAt (i + 1)).key = true := by
    simpa using hquery
  simp only [inExpr, atQuery, ↓run_bind, run_keyword_false hunnest, run_expectSymbol hopen,
    run_peekKey, run_pure, hcontains, if_true, hq, run_expectSymbol hclose, Bool.false_eq_true,
    if_false]

end Tests

/-- The expression at a position begins with an operand that operators continue, as many as this at
most, to an expression that ends at another position. -/
def Leads (s : Source) (g : Grammar) (q i most : Nat) (e : Expr) (k : Nat) : Prop :=
  ∃ a j n, operand g s i = (.ok a, j) ∧ n ≤ most ∧
    ∀ p ≤ q, ∀ bound, continuedWhile g p (bound + n) a s j = continuedWhile g p bound e s k

section Leads

variable {q m k most : Nat} {l e : Expr}

lemma leads_of_operand (h : operand g s i = (.ok e, k)) (q most : Nat) : Leads s g q i most e k :=
  ⟨e, k, 0, h, Nat.zero_le most, fun _ _ _ => rfl⟩

lemma Leads.continue {strength : Nat} (hleft : Leads s g (strength - 1) i most l m)
    (hq : q < strength) (hstrength : s.strengthAt m = strength)
    (hcontinued : continued g l strength s m = (.ok e, k)) {more : Nat} (hmore : most < more) :
    Leads s g q i more e k := by
  obtain ⟨a, j, n, ha, hn, hspine⟩ := hleft
  refine ⟨a, j, n + 1, ha, by omega, fun p hp bound => ?_⟩
  have hlower : ¬p ≥ strength := by omega
  rw [← Nat.add_assoc, Nat.add_right_comm, hspine p (by omega), continuedWhile]
  simp [↓run_bind, run_nextStrength, hstrength, hlower, hcontinued]

lemma run_subexpr (h : Leads s g q i s.tokens.size e k) (hend : s.strengthAt k ≤ q) :
    subexpr g q s i = (.ok e, k) := by
  obtain ⟨a, j, n, ha, hn, hspine⟩ := h
  have hbound : s.tokens.size + 1 = (s.tokens.size - n) + 1 + n := by omega
  simp only [subexpr, ↓run_bind, ha, run_read, hbound, hspine q (Nat.le_refl q)]
  rw [continuedWhile]
  simp [↓run_bind, run_nextStrength, hend]

end Leads

section Expressions

variable (hs : s.IsUsual) (hF : F.Regular) (hread : F.ReadBy s g)

include hF in
lemma key_not_mem_of_shows {p : Nat} {e : Expr} {ts : List Token} (h : F.expr p e ts)
    (hshows : s.shows i ts) (ks : List String) (hks : ∀ k ∈ ks, k ≠ "" ∧ k ∈ clauseWords) :
    (s.tokenAt i).key ∉ ks := by
  obtain ⟨t, us, rfl, hbegin⟩ := hF.begins _ _ _ h
  rw [hshows.1.2]
  exact key_not_mem_of_beginsExpr ks hks hbegin

include hs hF hread

lemma leads_expr {q : Nat} {e : Expr} {ts : List Token} (h : ExprForm s.dialect F q e ts) {i : Nat}
    (hshows : s.shows i ts) (hend : s.halts (q + 1) (i + ts.length)) :
    Leads s g q i ts.length e (i + ts.length) := by
  induction h generalizing i with
  | operand h => exact leads_of_operand (reads_operand hs hF hread h i hshows hend.1) _ _
  | @not p e ts tighter inner unmerged =>
    obtain ⟨⟨-, hnot⟩, hinner⟩ := hshows
    have hlength : i + (Token.keyword "NOT" :: ts).length = i + 1 + ts.length := by
      rw [List.length_cons]
      omega
    rw [hlength] at hend ⊢
    have he := hread.expr _ _ _ inner _ hinner ⟨hend.1, by have := hend.2; omega⟩
    have hexists : (s.tokenAt (i + 1)).key ≠ "EXISTS" := by
      obtain ⟨t, us, rfl, -⟩ := hF.begins _ _ _ inner
      rw [hinner.1.2]
      exact unmerged t rfl
    refine leads_of_operand (run_operand hs (by rw [hnot]; decide) (fun interval => ?_) ?_) _ _
    · rw [run_tokenExpr_word hnot]
      refine (run_bind_ok run_dialect).trans ((run_bind_ok run_peekToken).trans ?_)
      simp [notExpr, ↓run_bind, run_keyword_false hexists, strength, he]
    · exact hend.1.key_ne (by decide)
  | @negative p e ts tighter inner unmerged =>
    obtain ⟨⟨-, hminus⟩, hinner⟩ := hshows
    have hlength : i + (Token.symbol .minus :: ts).length = i + 1 + ts.length := by
      rw [List.length_cons]
      omega
    rw [hlength] at hend ⊢
    have he := hread.expr _ _ _ inner _ hinner ⟨hend.1, by have := hend.2; omega⟩
    have hplaced : (s.placedAt i).token = .symbol .minus := hminus
    refine leads_of_operand (run_operand hs (by rw [hminus]; decide) (fun interval => ?_)
      (hend.1.key_ne (by decide))) _ _
    simp [tokenExpr, ↓run_bind, hplaced, strength, he]
  | @binary p l r op t ts us operator tighter left right ih =>
    obtain ⟨hts, ⟨-, ht⟩, hus⟩ := Source.shows_append.1 hshows
    have hlength : i + (ts ++ t :: us).length = i + ts.length + 1 + us.length := by
      simp only [List.length_append, List.length_cons]
      omega
    rw [hlength] at hend ⊢
    have hstrength := strengthAt_operator operator ht
    have hmem : ∀ o ∈ operatorTokens, o.2 ∈ operandEnds := by decide
    have hleft := ih hts ⟨Source.ends_of_eq ht (hmem _ operator), by rw [hstrength]; omega⟩
    have hright := hread.expr _ _ _ right _ hus ⟨hend.1, by have := hend.2; omega⟩
    have hfirst := key_not_mem_of_shows hF right hus ["ANY", "ALL", "SOME"] (by decide)
    exact hleft.continue tighter hstrength (run_continued_binary operator ht hfirst hright)
      (by simp only [List.length_append, List.length_cons]; omega)
  | @test p l keys ts known tighter left ih =>
    obtain ⟨hts, ⟨-, his⟩, hkeys⟩ := Source.shows_append.1 hshows
    have hlength : i + (ts ++ .keyword "IS" :: keys.map Token.keyword).length =
        i + ts.length + 1 + keys.length := by
      simp only [List.length_append, List.length_cons, List.length_map]
      omega
    rw [hlength] at hend ⊢
    have hstrength : s.strengthAt (i + ts.length) = Level.strength s.dialect .is := by
      simp [Source.strengthAt, his, Token.keyword, Level.ofWords?]
    have hleft := ih hts ⟨Source.ends_of_eq his (by decide), by rw [hstrength]; omega⟩
    exact hleft.continue tighter hstrength
      ((run_continued_is _ his).trans (run_isExpr known hkeys))
      (by simp only [List.length_append, List.length_cons]; omega)
  | @among p l es negated ts us tighter left items ih =>
    obtain ⟨hts, hword, hopen, hinner, hclose, hlength⟩ := shows_negation_parens hshows
    rw [hlength] at hend ⊢
    have hlevel : ("IN", Level.between) ∈ testLevels := by decide
    obtain ⟨hends, hstrength⟩ := strengthAt_negation hlevel hword
    have hleft := ih hts ⟨hends, by rw [hstrength]; omega⟩
    have hlist := reads_exprs hread items _ hinner (Source.ends_of_eq hclose (by decide))
    obtain ⟨t, vs, rfl, hbegin⟩ := hF.begins_commas items
    have hquery := key_not_mem_of_beginsExpr ["SELECT", "WITH"] (by decide) hbegin
    have hfirst : t ≠ .symbol .rParen := by
      rintro rfl
      cases hbegin
    rw [← hinner.1.2] at hquery hfirst
    refine hleft.continue tighter hstrength ((run_continued_negation hlevel hword _).trans
      ((run_testExpr_in hword).trans
        (run_inExpr_list _ hopen hquery hfirst hlist hclose))) ?_
    simp only [List.length_append, List.length_cons]
    omega
  | @isIn p l q negated ts us tighter left rows unwrapped ih =>
    obtain ⟨hts, hword, hopen, hinner, hclose, hlength⟩ := shows_negation_parens hshows
    rw [hlength] at hend ⊢
    have hlevel : ("IN", Level.between) ∈ testLevels := by decide
    obtain ⟨hends, hstrength⟩ := strengthAt_negation hlevel hword
    have hleft := ih hts ⟨hends, by rw [hstrength]; omega⟩
    have hq := hread.query _ _ rows _ hinner (Source.ends_of_eq hclose (by decide))
    refine hleft.continue tighter hstrength ((run_continued_negation hlevel hword _).trans
      ((run_testExpr_in hword).trans
        (run_inExpr_query _ hopen (hF.key_of_shows rows unwrapped hinner) hq hclose))) ?_
    simp only [List.length_append, List.length_cons]
    omega
  | @between p l low high negated ts us vs tighter left lower upper ih =>
    have hassoc : ts ++ negationTokens negated ++ .keyword "BETWEEN" :: us ++
        Token.keyword "AND" :: vs =
          ts ++ ((negationTokens negated ++ [Token.keyword "BETWEEN"]) ++
            (us ++ .keyword "AND" :: vs)) := by simp
    rw [hassoc] at hshows hend ⊢
    obtain ⟨hts, hrest⟩ := Source.shows_append.1 hshows
    obtain ⟨hword, hrest⟩ := Source.shows_append.1 hrest
    obtain ⟨hus, ⟨-, hand⟩, hvs⟩ := Source.shows_append.1 hrest
    have hafter : i + ts.length + (negationTokens negated ++ [Token.keyword "BETWEEN"]).length =
        i + ts.length + (negationTokens negated).length + 1 := by
      rw [List.length_append]
      rfl
    rw [hafter] at hus hand hvs
    have hlength : i + (ts ++ ((negationTokens negated ++ [Token.keyword "BETWEEN"]) ++
        (us ++ Token.keyword "AND" :: vs))).length =
          i + ts.length + (negationTokens negated).length + 1 + us.length + 1 + vs.length := by
      simp only [List.length_append, List.length_cons, List.length_nil]
      omega
    rw [hlength] at hend ⊢
    have hlevel : ("BETWEEN", Level.between) ∈ testLevels := by decide
    obtain ⟨hends, hstrength⟩ := strengthAt_negation hlevel hword
    have hleft := ih hts ⟨hends, by rw [hstrength]; omega⟩
    have hlow := hread.expr _ _ _ lower _ hus ⟨Source.ends_of_eq hand (by decide), by
      rw [@strengthAt_operator _ _ .and _ (by decide) hand]
      cases s.dialect <;> decide⟩
    have hhigh := hread.expr _ _ _ upper _ hvs ⟨hend.1, by have := hend.2; omega⟩
    refine hleft.continue tighter hstrength ((run_continued_negation hlevel hword _).trans
      (run_testExpr_between hword hlow (key_of_keyword hand) hhigh)) ?_
    simp only [List.length_append, List.length_cons]
    omega
  | @like p l pattern negated ts us tighter left right ih =>
    have hassoc : ts ++ negationTokens negated ++ Token.keyword "LIKE" :: us =
        ts ++ ((negationTokens negated ++ [Token.keyword "LIKE"]) ++ us) := by simp
    rw [hassoc] at hshows hend ⊢
    obtain ⟨hts, hrest⟩ := Source.shows_append.1 hshows
    obtain ⟨hword, hus⟩ := Source.shows_append.1 hrest
    have hafter : i + ts.length + (negationTokens negated ++ [Token.keyword "LIKE"]).length =
        i + ts.length + (negationTokens negated).length + 1 := by
      rw [List.length_append]
      rfl
    rw [hafter] at hus
    have hlength : i + (ts ++ ((negationTokens negated ++ [Token.keyword "LIKE"]) ++ us)).length =
        i + ts.length + (negationTokens negated).length + 1 + us.length := by
      simp only [List.length_append, List.length_cons, List.length_nil]
      omega
    rw [hlength] at hend ⊢
    have hlevel : ("LIKE", Level.like) ∈ testLevels := by decide
    obtain ⟨hends, hstrength⟩ := strengthAt_negation hlevel hword
    have hleft := ih hts ⟨hends, by rw [hstrength]; omega⟩
    have hpattern := hread.expr _ _ _ right _ hus ⟨hend.1, by have := hend.2; omega⟩
    have hany := key_not_mem_of_shows hF right hus ["ANY"] (by decide)
    refine hleft.continue tighter hstrength ((run_continued_negation hlevel hword _).trans
      (run_testExpr_like hword (fun h => hany (by rw [h]; exact List.mem_cons_self)) hpattern
        (hend.1.key_ne (by decide)))) ?_
    simp only [List.length_append, List.length_cons]
    omega

lemma reads_subexpr {q : Nat} {e : Expr} {ts : List Token} (h : ExprForm s.dialect F q e ts) :
    Reads s (subexpr g q) ts e (s.halts q) := by
  intro i hshows hend
  obtain ⟨a, j, n, ha, hn, hspine⟩ :=
    leads_expr hs hF hread h hshows ⟨hend.1, Nat.le_succ_of_le hend.2⟩
  have hlength := Source.length_le_of_shows hshows
  exact run_subexpr ⟨a, j, n, ha, by omega, hspine⟩ hend.2

omit hs hread in
lemma opens_operand {e : Expr} {ts : List Token} (h : OperandForm s.dialect F e ts)
    (hshows : s.shows i ts) (hend : s.ends operandEnds (i + ts.length)) : s.opensAt i := by
  have hnamed : ∀ (j : Ident) (n us), s.shows i (Name.tokens (j :: n) ++ us) →
      s.tokenAt (i + 1 + (partTokens n).length) ≠ .symbol .period → s.opensAt i := by
    intro j n us hshows hperiod
    rw [tokens_cons] at hshows
    obtain ⟨⟨-, hword⟩, hparts⟩ := hshows
    exact .inr ⟨_, n, hword, (Source.shows_append.1 hparts).1, hperiod⟩
  have hcalled : ∀ (j : Ident) (n us),
      s.shows i (Name.tokens (j :: n) ++ .symbol .lParen :: us) → s.opensAt i := by
    intro j n us hshows
    refine hnamed j n _ hshows ?_
    obtain ⟨-, ⟨-, hopen⟩, -⟩ := Source.shows_append.1 hshows
    rw [tokens_cons, List.length_cons, ← Nat.add_assoc, Nat.add_right_comm] at hopen
    rw [hopen]
    decide
  cases h with
  | @name j n first others =>
    refine hnamed j n [] (by rwa [List.append_nil]) ?_
    rw [tokens_cons, List.length_cons] at hend
    rw [Nat.add_assoc, Nat.add_comm 1]
    exact hend.ne (by decide)
  | number numeral => exact .inl (hend.ne (by decide))
  | string rereads => exact .inl (hend.ne (by decide))
  | null => exact .inl (hend.ne (by decide))
  | truth known => exact .inl (hend.ne (by decide))
  | @nested e ts inner =>
    obtain ⟨-, hinner, -⟩ := shows_parens hshows
    obtain ⟨t, us, rfl, hbegin⟩ := hF.begins _ _ _ inner
    refine .inl ?_
    rw [hinner.1.2]
    rintro rfl
    cases hbegin
  | @query q ts inner unwrapped =>
    obtain ⟨-, hinner, -⟩ := shows_parens hshows
    refine .inl fun hperiod => ?_
    have hkey := hF.key_of_shows inner unwrapped hinner
    rw [hperiod] at hkey
    exact absurd hkey (by decide)
  | @«exists» q negated ts inner =>
    refine .inl ?_
    cases negated with
    | false =>
      rw [hshows.2.1.2]
      decide
    | true =>
      rw [hshows.2.1.2]
      exact nofun
  | @call j n dup items ds ts first others counted arguments =>
    rw [List.append_assoc] at hshows
    exact hcalled j n _ hshows
  | @callEmpty j n first others => exact hcalled j n _ hshows
  | @choice subject otherwise branches ts us vs compared nonempty tried last =>
    have htail : ∃ t ws, ts ++ us ++ vs ++ [Token.keyword "END"] = t :: ws ∧ t ≠ .symbol .period := by
      cases compared with
      | some h unmerged =>
        obtain ⟨t, ts, rfl, hbegin⟩ := hF.begins _ _ _ h
        refine ⟨t, _, rfl, ?_⟩
        rintro rfl
        cases hbegin
      | none =>
        cases tried with
        | nil => exact absurd rfl nonempty
        | cons h others => cases h; exact ⟨_, _, rfl, by decide⟩
    obtain ⟨t, ws, hws, ht⟩ := htail
    refine .inl ?_
    rw [show Token.keyword "CASE" :: ts ++ us ++ vs ++ [Token.keyword "END"] = _ from
      congrArg (_ :: ·) hws] at hshows
    rw [hshows.2.1.2]
    exact ht

omit hs hread in
lemma opens_expr {q : Nat} {e : Expr} {ts : List Token} (h : ExprForm s.dialect F q e ts)
    (hshows : s.shows i ts) (hend : s.ends operandEnds (i + ts.length)) : s.opensAt i := by
  induction h with
  | operand h => exact opens_operand hF h hshows hend
  | @not p e ts tighter inner unmerged =>
    obtain ⟨t, us, rfl, hbegin⟩ := hF.begins _ _ _ inner
    refine .inl ?_
    rw [hshows.2.1.2]
    rintro rfl
    cases hbegin
  | @negative p e ts tighter inner unmerged =>
    obtain ⟨t, us, rfl, hbegin⟩ := hF.begins _ _ _ inner
    refine .inl ?_
    rw [hshows.2.1.2]
    rintro rfl
    cases hbegin
  | binary operator tighter left right ih =>
    obtain ⟨hts, ⟨-, ht⟩, -⟩ := Source.shows_append.1 hshows
    have hmem : ∀ o ∈ operatorTokens, o.2 ∈ operandEnds := by decide
    exact ih hts (Source.ends_of_eq ht (hmem _ operator))
  | test known tighter left ih =>
    obtain ⟨hts, ⟨-, ht⟩, -⟩ := Source.shows_append.1 hshows
    exact ih hts (Source.ends_of_eq ht (by decide))
  | among tighter left items ih =>
    obtain ⟨hts, hword, -⟩ := shows_negation_parens hshows
    have hlevel : ("IN", Level.between) ∈ testLevels := by decide
    exact ih hts (strengthAt_negation hlevel hword).1
  | isIn tighter left rows unwrapped ih =>
    obtain ⟨hts, hword, -⟩ := shows_negation_parens hshows
    have hlevel : ("IN", Level.between) ∈ testLevels := by decide
    exact ih hts (strengthAt_negation hlevel hword).1
  | @between p l low high negated ts us vs tighter left lower upper ih =>
    have hassoc : ts ++ negationTokens negated ++ .keyword "BETWEEN" :: us ++
        Token.keyword "AND" :: vs =
          ts ++ ((negationTokens negated ++ [Token.keyword "BETWEEN"]) ++
            (us ++ .keyword "AND" :: vs)) := by simp
    rw [hassoc] at hshows
    obtain ⟨hts, hrest⟩ := Source.shows_append.1 hshows
    have hlevel : ("BETWEEN", Level.between) ∈ testLevels := by decide
    exact ih hts (strengthAt_negation hlevel (Source.shows_append.1 hrest).1).1
  | @like p l pattern negated ts us tighter left right ih =>
    have hassoc : ts ++ negationTokens negated ++ Token.keyword "LIKE" :: us =
        ts ++ ((negationTokens negated ++ [Token.keyword "LIKE"]) ++ us) := by simp
    rw [hassoc] at hshows
    obtain ⟨hts, hrest⟩ := Source.shows_append.1 hshows
    have hlevel : ("LIKE", Level.like) ∈ testLevels := by decide
    exact ih hts (strengthAt_negation hlevel (Source.shows_append.1 hrest).1).1

end Expressions

end RowFence.Sql.Parser
