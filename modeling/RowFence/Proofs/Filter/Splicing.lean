import RowFence.Proofs.Filter.Calls
import RowFence.Proofs.Sql.Closing
import RowFence.Proofs.Sql.FormDepth
import RowFence.Proofs.Sql.StatementReading

/-! A filter is put behind another condition in parentheses: both are read there as they are read by
themselves. -/

namespace RowFence.Filter

open Sql Sql.Lexer

section Screened

lemma startsWith_of_prefix {word text : List Char} (h : word <+: text) :
    startsWith word text = true := List.isPrefixOf_iff_prefix.2 (h.map folded)

/-- Wherever a dangerous sign stands in a text, the text is refused for it. -/
lemma isDangerous_of_occurs {mark text : List Char} (hmark : mark ∈ dangerousSigns)
    (h : mark <:+: text) : isDangerous text = true := by
  induction text with
  | nil =>
    obtain rfl := List.infix_nil.1 h
    exact absurd hmark (by decide)
  | cons c cs ih =>
    rw [isDangerous]
    rcases List.infix_cons_iff.1 h with hstarts | hoccurs
    · have hany : dangerousSigns.any (startsWith · (c :: cs)) = true :=
        List.any_eq_true.2 ⟨mark, hmark, startsWith_of_prefix hstarts⟩
      rw [startsDangerous, hany, Bool.true_or, Bool.true_or]
    · rw [ih hoccurs, Bool.or_true]

lemma not_isDangerous_of_accepted {d : Dialect} {filter : String}
    (accepted : rejection? d filter = none) : isDangerous (Text.trimChars filter.toList) = false := by
  rcases rejection?_eq_none_iff.1 accepted with hblank | ⟨hsafe, -⟩
  · rw [hblank]
    rfl
  · exact hsafe

end Screened

def exprAndNext : Parser (Expr × Token) := do
  let e ← Grammar.whole.expr
  return (e, ← Parser.peekToken)

/-- The whole text is read as one expression. -/
def ReadsAs (d : Dialect) (text : String) (e : Expr) : Prop :=
  Parser.run exprAndNext d text = .ok (e, .ending)

def tokensOf (d : Dialect) (text : String) : List Token :=
  match Lexer.tokens d text with
  | .ok found => found.toList.map (·.token)
  | .error _ => []

/-- Blanks and comments of a text. -/
def gapsOf (d : Dialect) (text : String) : List String :=
  match Lexer.tokens d text with
  | .ok found => found.toList.flatMap (·.gaps)
  | .error _ => []

/-- The text is written as one of the forms of expressions, nested at most `depth` deep. -/
def Written (d : Dialect) (depth : Nat) (text : String) : Prop :=
  ∃ e ts, tokensOf d text = ts ++ [.ending] ∧ (Forms.within d depth).expr 0 e ts

/-- No comment in the text begins with this mark. -/
def HasNo (mark : String) (d : Dialect) (text : String) : Prop :=
  ∀ g ∈ gapsOf d text, ¬ mark.toList <+: g.toList

instance (mark : String) (d : Dialect) (text : String) : Decidable (HasNo mark d text) :=
  inferInstanceAs (Decidable (∀ g ∈ gapsOf d text, ¬ mark.toList <+: g.toList))

section Reading

variable {d : Dialect} {text : String} {e : Expr} {ts : List Token}

lemma tokens_of_tokensOf (h : tokensOf d text = ts ++ [Token.ending]) :
    ∃ found, Lexer.tokens d text = .ok found ∧
      found.toList.map (·.token) = ts ++ [Token.ending] := by
  unfold tokensOf at h
  split at h
  · next found hfound => exact ⟨found, hfound, h⟩
  · simp at h

lemma readsAs_of_tokens {found : Array PlacedToken} (hfound : Lexer.tokens d text = .ok found)
    (htokens : found.toList.map (·.token) = ts ++ [Token.ending])
    (h : (Forms.within d 50).expr 0 e ts) : ReadsAs d text e := by
  let s : Source := { tokens := found, dialect := d, hierarchical := false }
  have husual : s.IsUsual :=
    isUsual_of_tokens htokens ((Forms.regular_within d 50).exprPlain _ _ _ h)
  have hend : s.tokenAt (0 + ts.length) = .ending := by
    rw [tokenAt_eq htokens, Nat.zero_add, List.getElem?_append_right (Nat.le_refl _), Nat.sub_self]
    rfl
  have hexpr : Grammar.whole.expr s 0 = (.ok e, 0 + ts.length) :=
    (Parser.readBy_within husual 50).expr 0 e ts h 0 (shows_of_drop htokens (List.drop_zero ..))
      ((Source.ends_of_eq hend (by decide)).halts 0)
  rw [ReadsAs, Parser.run, hfound]
  have hrun : exprAndNext s 0 = (.ok (e, .ending), 0 + ts.length) := by
    rw [exprAndNext]
    refine (Parser.run_bind_ok hexpr).trans ?_
    simp only [Parser.run_bind, Parser.run_peekToken, Parser.run_pure, hend]
  exact congrArg (·.1) hrun

lemma readsAs_of_form {depth : Nat} (htokens : tokensOf d text = ts ++ [Token.ending])
    (h : (Forms.within d depth).expr 0 e ts) (hdepth : depth ≤ 50) : ReadsAs d text e := by
  obtain ⟨found, hfound, hts⟩ := tokens_of_tokensOf htokens
  exact readsAs_of_tokens hfound hts ((Forms.within_le hdepth).expr _ _ _ h)

lemma run_conditionParser (s : Source) :
    conditionParser s 0 = (Except.ok <$> exprAndNext) s 0 ∨
      ∃ word, conditionParser s 0 = (.ok (.error word), 0) := by
  have hrest : (do
      let e ← Grammar.whole.expr
      return (.ok (e, ← Parser.peekToken) : Except String (Expr × Token)) : Parser _) s 0 =
        (Except.ok <$> exprAndNext) s 0 := by
    simp only [exprAndNext, Parser.run_bind, Parser.run_map]
    obtain ⟨result, j⟩ := Grammar.whole.expr s 0
    cases result <;> rfl
  rw [conditionParser, Parser.run_bind_ok Parser.run_peekToken]
  cases s.tokenAt 0 with
  | word w =>
    dsimp only
    split
    · exact .inr ⟨w.value, rfl⟩
    · exact .inl hrest
  | _ => exact .inl hrest

lemma readsAs_of_condition (h : condition d text = .ok e) : ReadsAs d text e := by
  rw [ReadsAs, Parser.run]
  unfold condition Parser.run at h
  cases hfound : Lexer.tokens d text with
  | error fault =>
    rw [hfound] at h
    cases h
  | ok found =>
    rw [hfound] at h
    simp only [bind, Except.bind] at h ⊢
    generalize ({ tokens := found, dialect := d, hierarchical := false } : Source) = s at h ⊢
    rcases run_conditionParser s with hrun | ⟨word, hrun⟩
    · rw [hrun, Parser.run_map] at h
      generalize exprAndNext s 0 = outcome at h ⊢
      obtain ⟨result, j⟩ := outcome
      cases result with
      | error fault => cases h
      | ok read =>
        obtain ⟨e', t⟩ := read
        cases t <;> cases h
        rfl
    · rw [hrun] at h
      cases h

end Reading

def spliced (clause filter : String) : String := "(" ++ clause ++ ") AND (" ++ filter ++ ")"

section Splicing

variable {d : Dialect} {clause filter : String}

lemma ReadsAs.unique {text : String} {e e' : Expr} (h : ReadsAs d text e)
    (h' : ReadsAs d text e') : e = e' :=
  congrArg Prod.fst (Except.ok.inj (h.symm.trans h'))

/-- A text in form is split into its tokens in parentheses, too, unless a comment is in the way. -/
lemma Written.splitsPlainly {depth : Nat} (h : Written d depth clause) (hdepth : depth ≤ 50)
    (hmarks : ∀ mark ∈ commentMarks, mark.toList <:+: clause.toList → HasNo mark d clause) :
    ∃ e ts, SplitsPlainly d clause ts ∧ ReadsAs d clause e ∧
      (Forms.within d depth).expr 0 e ts := by
  obtain ⟨e, ts, htokens, hform⟩ := h
  obtain ⟨found, hfound, hts⟩ := tokens_of_tokensOf htokens
  have hlacks : ∀ mark ∈ commentMarks, mark.toList <:+: clause.toList → Lacks mark found := by
    intro mark hmark hoccurs p hp g hg
    refine hmarks mark hmark hoccurs g ?_
    rw [gapsOf, hfound]
    exact List.mem_flatMap.2 ⟨p, hp, hg⟩
  exact ⟨e, ts, ⟨(Forms.regular_within d depth).exprPlain _ _ _ hform, found, hfound, hts, hlacks⟩,
    readsAs_of_tokens hfound hts ((Forms.within_le hdepth).expr _ _ _ hform), hform⟩

lemma splits_spliced {cs es : List Token} (hclause : SplitsPlainly d clause cs)
    (hfilter : SplitsPlainly d filter es) :
    Splits d (spliced clause filter).toList
      (.symbol .lParen :: cs ++ [Token.symbol .rParen] ++
        Token.keyword "AND" :: (.symbol .lParen :: es ++ [Token.symbol .rParen])) := by
  have hclose : Splits d [')'] [.symbol .rParen] :=
    .token (step_sign d (by decide) []) (by simp) .nil
  have hbetween : Opens d " AND (" [.keyword "AND", .symbol .lParen] :=
    opens_marks [.blank, .word "AND", .blank, .sign '(' .lParen] (by decide) (by decide)
  have hsecond : Splits d (')' :: (" AND (".toList ++ (filter.toList ++ [')'])))
      (.symbol .rParen :: ([.keyword "AND", .symbol .lParen] ++ (es ++ [Token.symbol .rParen]))) :=
    .token (step_sign d (by decide) _) (by simp) (hbetween _ _ (hfilter.closed hclose))
  have hopen : ('(', Symbol.lParen) ∈ signs := by decide
  have hboth := Splits.token (step_sign d hopen _) (Nat.lt_succ_self _) (hclause.closed hsecond)
  have htext : (spliced clause filter).toList = '(' :: (clause.toList ++ ')' :: (" AND (".toList ++
      (filter.toList ++ [')']))) := by simp [spliced]
  rw [htext]
  simpa using hboth

lemma form_spliced {c e : Expr} {cs es : List Token} (hc : (Forms.within d 49).expr 0 c cs)
    (he : (Forms.within d 48).expr 0 e es) :
    (Forms.within d 50).expr 0 (.binary (.nested c) .and (.nested e))
      (.symbol .lParen :: cs ++ [Token.symbol .rParen] ++
        Token.keyword "AND" :: (.symbol .lParen :: es ++ [Token.symbol .rParen])) :=
  have hstrength : 0 < (Token.keyword "AND").strength d := by cases d <;> decide
  have hright : (Forms.within d 49).expr ((Token.keyword "AND").strength d) (.nested e)
      (.symbol .lParen :: es ++ [Token.symbol .rParen]) := .operand (.nested he)
  .binary (by decide) hstrength (.operand (.nested hc)) hright

/-- An accepted filter closes no parenthesis early and hides nothing that follows it: behind any
other condition it is read as it was when it was screened. A comment that the screen does not know is
the exception. -/
theorem readsAs_spliced {c e : Expr} (accepted : rejection? d filter = none)
    (parsed : condition d (Text.trim filter) = .ok e) (written : Written d 48 (Text.trim filter))
    (unhashed : HasNo "#" d (Text.trim filter)) (other : ReadsAs d clause c)
    (form : Written d 49 clause) (uncommented : ∀ mark ∈ commentMarks, HasNo mark d clause) :
    ReadsAs d (spliced clause (Text.trim filter)) (.binary (.nested c) .and (.nested e)) := by
  have habsent : ∀ mark : String, mark.toList ∈ dangerousSigns →
      ¬ mark.toList <:+: (Text.trim filter).toList := by
    intro mark hmark hoccurs
    rw [Text.trim, String.toList_ofList] at hoccurs
    have hsafe := not_isDangerous_of_accepted accepted
    rw [isDangerous_of_occurs hmark hoccurs] at hsafe
    cases hsafe
  have hmarks : ∀ mark ∈ commentMarks, mark.toList <:+: (Text.trim filter).toList →
      HasNo mark d (Text.trim filter) := by
    intro mark hmark hoccurs
    simp only [commentMarks, List.mem_cons, List.not_mem_nil, or_false] at hmark
    rcases hmark with rfl | rfl | rfl
    · exact absurd hoccurs (habsent "--" (by decide))
    · exact absurd hoccurs (habsent "/*" (by decide))
    · exact unhashed
  obtain ⟨c', cs, hclause, hread, hc⟩ := form.splitsPlainly (by decide) fun mark hmark _ =>
    uncommented mark hmark
  obtain rfl := other.unique hread
  obtain ⟨e', es, hfilter, hread', he⟩ := written.splitsPlainly (by decide) hmarks
  obtain rfl := (readsAs_of_condition parsed).unique hread'
  obtain ⟨found, hfound, htokens⟩ := tokens_of_splits (splits_spliced hclause hfilter)
  exact readsAs_of_tokens hfound htokens (form_spliced hc he)

end Splicing

lemma form_comparison {d : Dialect} {k : Nat} {i : Ident} {e : Expr} {t : Token}
    (hi : IsPlainName d i) (he : OperandForm d (Forms.within d k) e [t]) :
    (Forms.within d (k + 2)).expr 0 (.binary (.name [i]) .eq e) [.word i.word, .symbol .eq, t] :=
  have hstrength : 0 < (Token.symbol .eq).strength d := by cases d <;> decide
  have hright : (Forms.within d (k + 1)).expr ((Token.symbol .eq).strength d) e [t] := .operand he
  .binary (by decide) hstrength (.operand (.name hi (List.forall_mem_nil _))) hright

/-- The filter `status = 'open'` behind the condition `id = 1`. -/
theorem readsAs_spliced_openRows :
    let filter := "status = 'open'"
    let c := Expr.binary (.name [⟨"id", none⟩]) .eq (.value "1")
    let e := Expr.binary (.name [⟨"status", none⟩]) .eq (.value (Literal.single "open"))
    rejection? .mysql filter = none ∧ condition .mysql (Text.trim filter) = .ok e ∧
      ReadsAs .mysql "id = 1" c ∧
        ReadsAs .mysql (spliced "id = 1" (Text.trim filter)) (.binary (.nested c) .and (.nested e)) := by
  intro filter c e
  have accepted : rejection? .mysql filter = none := by decide +kernel
  have hid : IsPlainName .mysql ⟨"id", none⟩ := ⟨by decide +kernel, by decide +kernel⟩
  have hstatus : IsPlainName .mysql ⟨"status", none⟩ := ⟨by decide +kernel, by decide +kernel⟩
  have hone : OperandForm .mysql (Forms.within .mysql 47) (.value "1") [.number "1" false] :=
    .number (.whole (by decide) (by decide))
  have hopen : OperandForm .mysql (Forms.within .mysql 46) (.value (Literal.single "open"))
      [.string .single "open"] := .string (by decide +kernel)
  have hclause := form_comparison hid hone
  have hfilter := form_comparison hstatus hopen
  have hcs : tokensOf .mysql "id = 1" = [.word (Ident.word ⟨"id", none⟩), .symbol .eq,
      .number "1" false] ++ [.ending] := by decide +kernel
  have hes : tokensOf .mysql (Text.trim filter) = [.word (Ident.word ⟨"status", none⟩), .symbol .eq,
      .string .single "open"] ++ [.ending] := by decide +kernel
  have other : ReadsAs .mysql "id = 1" c := readsAs_of_form hcs hclause (by decide)
  have hread : ReadsAs .mysql (Text.trim filter) e := readsAs_of_form hes hfilter (by decide)
  have parsed : condition .mysql (Text.trim filter) = .ok e := by
    rw [Text.trim] at hread ⊢
    rcases rejection?_eq_none_iff.1 accepted with hblank | ⟨-, -, e', parsed, -⟩
    · exact absurd hblank (by decide +kernel)
    · rw [parsed, hread.unique (readsAs_of_condition parsed)]
  exact ⟨accepted, parsed, other, readsAs_spliced accepted parsed ⟨e, _, hes, hfilter⟩
    (by decide +kernel) other ⟨c, _, hcs, hclause⟩ (by decide +kernel)⟩

/-- The screen does not know that `#` begins a comment, which hides the closing parenthesis. -/
theorem not_readsAs_spliced_comment :
    let filter := "id = 2 # x"
    rejection? .mysql filter = none ∧ (∃ e, condition .mysql (Text.trim filter) = .ok e) ∧
      (∃ c, ReadsAs .mysql "id = 1" c) ∧ (∀ mark ∈ commentMarks, HasNo mark .mysql "id = 1") ∧
        ∃ fault, Parser.run exprAndNext .mysql (spliced "id = 1" filter) = .error fault ∧
          fault ≠ .tooDeep := by
  intro filter
  have hread : ∀ text, (condition .mysql text).toOption.isSome = true →
      ∃ e, condition .mysql text = .ok e := by
    intro text h
    cases hcondition : condition .mysql text with
    | error fault =>
      rw [hcondition] at h
      cases h
    | ok e => exact ⟨e, rfl⟩
  obtain ⟨c, hc⟩ := hread "id = 1" (by decide +kernel)
  have hfault : (match Parser.run exprAndNext .mysql (spliced "id = 1" filter) with
      | .error fault => fault != .tooDeep
      | .ok _ => false) = true := by decide +kernel
  refine ⟨by decide +kernel, hread _ (by decide +kernel), ⟨c, readsAs_of_condition hc⟩,
    by decide +kernel, ?_⟩
  cases hrun : Parser.run exprAndNext .mysql (spliced "id = 1" filter) with
  | error fault =>
    rw [hrun] at hfault
    exact ⟨fault, rfl, bne_iff_ne.1 hfault⟩
  | ok read =>
    rw [hrun] at hfault
    cases hfault

end RowFence.Filter
