import RowFence.Proofs.Sql.FormTokens

/-! The text of a statement form is split into the tokens of the form. -/

namespace RowFence.Sql

open Lexer

variable {d : Dialect} {F : Forms}

/-- A text that may stand after a word: it is empty or starts with what ends a word. -/
structure Follows (d : Dialect) (text : String) (ts : List Token) : Prop where
  splits : SplitsInto d text ts
  starts : StartsWithStop text

section Follows

variable {a b : String} {ts us : List Token}

lemma follows_empty (d : Dialect) : Follows d "" [] := ⟨splitsInto_empty, by decide⟩

lemma startsWithStop_append (ha : StartsWithStop a) (hne : a ≠ "") (b : String) :
    StartsWithStop (a ++ b) := by
  unfold StartsWithStop at *
  rw [String.toList_append]
  cases htext : a.toList with
  | nil => exact absurd (String.toList_eq_nil_iff.1 htext) hne
  | cons c cs =>
    rw [htext] at ha
    exact fun c' hc' => ha c' hc'

lemma Lexer.SplitsInto.follows (ha : SplitsInto d a ts) (hb : Follows d b us) :
    SplitsInto d (a ++ b) (ts ++ us) := ha.append hb.splits hb.starts

lemma Follows.follows (ha : Follows d a ts) (hb : Follows d b us) :
    Follows d (a ++ b) (ts ++ us) := by
  refine ⟨ha.splits.append hb.splits hb.starts, ?_⟩
  by_cases hempty : a = ""
  · rw [hempty, String.empty_append]
    exact hb.starts
  · exact startsWithStop_append ha.starts hempty b

lemma Lexer.Opens.follows (ha : Opens d a ts) (hstarts : StartsWithStop a) (hne : a ≠ "")
    (hb : SplitsInto d b us) : Follows d (a ++ b) (ts ++ us) :=
  ⟨ha.append hb, startsWithStop_append hstarts hne b⟩

lemma ne_empty_of_splitsInto (h : SplitsInto d a ts) (hts : ts ≠ []) : a ≠ "" := by
  rintro rfl
  have hnone := splits_of_splitsInto h
  cases hnone with
  | nil => exact hts rfl
  | gap read shorter others => simp at shorter
  | token read shorter others => simp at shorter

lemma Lexer.SplitsInto.blank (ha : SplitsInto d a ts) : Opens d (a ++ " ") ts := by
  intro rest us h
  rw [String.toList_append, List.append_assoc]
  have hblank : Splits d (' ' :: rest) us := .gap (step_blank d rest) (by simp) h
  exact ha (' ' :: rest) us (fun c hc => by rw [← Option.some.inj hc]; decide) hblank

lemma Lexer.Opens.closed (ha : Opens d a ts) (hb : SplitsInto d b us) :
    SplitsInto d (a ++ b ++ ")") (ts ++ us ++ [Token.symbol .rParen]) := by
  have hclose : Opens d ")" [.symbol .rParen] := opens_marks [.sign ')' .rParen] (by decide) rfl
  exact (ha.append hb).append hclose.splitsInto (by decide)

lemma follows_parens (h : SplitsInto d a ts) :
    Follows d ("(" ++ a ++ ")") (.symbol .lParen :: ts ++ [Token.symbol .rParen]) := by
  have hopen : Opens d "(" [.symbol .lParen] := opens_marks [.sign '(' .lParen] (by decide) rfl
  refine ⟨hopen.closed h, ?_⟩
  rw [String.append_assoc]
  exact startsWithStop_append (by decide) (by decide) _

end Follows

section Pieces

lemma spellPieces_append (ps qs : List Piece) :
    spellPieces (ps ++ qs) = spellPieces ps ++ spellPieces qs := by
  induction ps with
  | nil => simp [spellPieces]
  | cons p ps ih => rw [List.cons_append, spellPieces, spellPieces, ih, String.append_assoc]

lemma spellPieces_commaPieces (items : List (List Piece)) :
    spellPieces (commaPieces items) = listed (items.map spellPieces) := by
  unfold commaPieces listed
  induction items with
  | nil => rfl
  | cons p ps ih =>
    cases ps with
    | nil => simp [separatedBy]
    | cons q ps =>
      rw [separatedBy, spellPieces_append, spellPieces, ih]
      · simp only [List.map_cons, String.intercalate_cons_cons, Piece.spelling,
          String.append_assoc]
      · exact List.cons_ne_nil q ps

lemma spellPieces_pieceOf (e : Expr) : spellPieces (pieceOf e) = e.spelling := by
  simp [pieceOf, spellPieces, Piece.spelling]

lemma spellPieces_exprPieces (es : List Expr) :
    spellPieces (exprPieces es) = listed (es.map Expr.spelling) := by
  rw [exprPieces, spellPieces_commaPieces, List.map_map]
  exact congrArg listed (List.map_congr_left fun e _ => spellPieces_pieceOf e)

lemma spellPieces_inPieceParens (ps : List Piece) :
    spellPieces (Parser.inPieceParens ps) = "(" ++ spellPieces ps ++ ")" := by
  simp [Parser.inPieceParens, text, spellPieces, spellPieces_append, Piece.spelling,
    String.append_assoc]

lemma spellPieces_flatten (rows : List (List Piece)) :
    spellPieces rows.flatten = String.join (rows.map spellPieces) := by
  induction rows with
  | nil => rfl
  | cons ps rows ih => rw [List.flatten_cons, spellPieces_append, ih, List.map_cons, String.join_cons]

lemma spellExprs_eq (es : List Expr) : spellExprs es = es.map Expr.spelling := by
  induction es with
  | nil => rfl
  | cons e es ih => rw [spellExprs, ih, List.map_cons]

lemma spellTables_eq (ts : List TableWithJoins) :
    spellTables ts = ts.map TableWithJoins.spelling := by
  induction ts with
  | nil => rfl
  | cons t ts ih => rw [spellTables, ih, List.map_cons]

lemma spellCtes_eq (cs : List Cte) : spellCtes cs = cs.map Cte.spelling := by
  induction cs with
  | nil => rfl
  | cons c cs ih => rw [spellCtes, ih, List.map_cons]

lemma spellItems_eq (is : List SelectItem) : spellItems is = is.map SelectItem.spelling := by
  induction is with
  | nil => rfl
  | cons i is ih => rw [spellItems, ih, List.map_cons]

lemma spellKeys_eq (ks : List OrderKey) : spellKeys ks = ks.map OrderKey.spelling := by
  induction ks with
  | nil => rfl
  | cons k ks ih => rw [spellKeys, ih, List.map_cons]

end Pieces

section Lists

variable {α : Type} {R : α → List Token → Prop} (spell : α → String)

lemma opens_comma : Opens d ", " [.symbol .comma] :=
  opens_marks [.sign ',' .comma, .blank] (by decide) rfl

lemma splitsInto_listed (hR : ∀ a ts, R a ts → SplitsInto d (spell a) ts) {as : List α}
    {ts : List Token} (h : Parser.Commas R as ts) : SplitsInto d (listed (as.map spell)) ts := by
  induction h with
  | one h => exact hR _ _ h
  | @more a as ts us h others ih =>
    obtain ⟨b, bs, rfl⟩ : ∃ b bs, as = b :: bs := by
      cases others with
      | one h => exact ⟨_, _, rfl⟩
      | more h others => exact ⟨_, _, rfl⟩
    rw [listed, List.map_cons, List.map_cons, String.intercalate_cons_cons, String.append_assoc]
    exact SplitsInto.follows (hR _ _ h) (opens_comma.follows (by decide) (by decide) ih)

lemma follows_row (hR : ∀ a ts, R a ts → Follows d (spell a) ts) {as : List α} {ts : List Token}
    (h : Row R as ts) : Follows d (String.join (as.map spell)) ts := by
  induction h with
  | nil => exact follows_empty d
  | cons h others ih =>
    rw [List.map_cons, String.join_cons]
    exact (hR _ _ h).follows ih

lemma follows_clause (keyword : String) {ks : List Token}
    (hkeyword : Opens d (" " ++ keyword) ks)
    (hR : ∀ a ts, R a ts → SplitsInto d (spell a) ts) (hne : ∀ a ts, R a ts → ts ≠ [])
    {as : List α} {ts : List Token} (h : ListForm ks R as ts) :
    Follows d (clause keyword (listed (as.map spell))) ts := by
  cases h with
  | nil => exact follows_empty d
  | items h =>
    have hitems := splitsInto_listed spell hR h
    have hempty : (listed (as.map spell)).isEmpty = false := by
      simpa using ne_empty_of_splitsInto hitems (h.ne_nil hne)
    rw [clause, hempty, if_neg Bool.false_ne_true]
    exact hkeyword.follows (startsWithStop_append (by decide) (by decide) _) (by simp) hitems

end Lists

lemma follows_suffix {suffix : String} {ks : List Token}
    (h : (suffix, ks) ∈ directionTokens ++ unitTokens) : Follows d suffix ks := by
  have hall : ∀ o ∈ directionTokens ++ unitTokens,
      o = ("", []) ∨ ∃ w ∈ ["ASC", "DESC", "ROW", "ROWS"], o = (" " ++ w, [.keyword w]) := by decide
  have hkeywords : ∀ w ∈ ["ASC", "DESC", "ROW", "ROWS"], Mark.isKeyword w = true := by decide
  obtain hnone | ⟨w, hw, hsome⟩ := hall _ h
  · obtain ⟨rfl, rfl⟩ := Prod.mk.inj hnone
    exact follows_empty d
  · obtain ⟨rfl, rfl⟩ := Prod.mk.inj hsome
    exact ⟨splitsInto_marks_word [.blank] w (by decide) (hkeywords w hw) (by simp [Mark.text]),
      startsWithStop_append (by decide) (by decide) w⟩

namespace Forms

structure Spelled (d : Dialect) (F : Forms) : Prop where
  expr : ∀ p e ts, F.expr p e ts → SplitsInto d e.spelling ts
  query : ∀ q ts, F.query q ts → SplitsInto d q.spelling ts
  begins : ∀ p e ts, F.expr p e ts → (∀ t ∈ ts.head?, t ≠ .symbol .minus) →
    BeginsOperand d e.spelling

end Forms

section Expressions

variable (hF : F.Spelled d)

include hF

lemma splitsInto_argument {ps : List Piece} {ts : List Token} (h : ArgumentForm F ps ts) :
    SplitsInto d (spellPieces ps) ts := by
  cases h with
  | all => exact (opens_marks [.sign '*' .mul] (by decide) rfl).splitsInto
  | expr h =>
    rw [spellPieces_pieceOf]
    exact hF.expr _ _ _ h

lemma follows_subject {ps : List Piece} {ts : List Token} (h : SubjectForm F ps ts) :
    Follows d (spellPieces ps) ts := by
  cases h with
  | none => exact follows_empty d
  | some h unmerged =>
    have hblank : Opens d " " [] := opens_marks [.blank] (by decide) rfl
    have hsubject := hblank.follows (by decide) (by decide) (hF.expr _ _ _ h)
    simpa [spellPieces, Piece.spelling] using hsubject

lemma follows_branch {ps : List Piece} {ts : List Token} (h : BranchForm F ps ts) :
    Follows d (spellPieces ps) ts := by
  cases h with
  | mk tested chosen =>
    have hwhen : Opens d " WHEN " [.keyword "WHEN"] :=
      opens_marks [.blank, .word "WHEN", .blank] (by decide) (by decide)
    have hthen : Opens d " THEN " [.keyword "THEN"] :=
      opens_marks [.blank, .word "THEN", .blank] (by decide) (by decide)
    have hresult := hthen.follows (by decide) (by decide) (hF.expr _ _ _ chosen)
    have hbranch := hwhen.follows (by decide) (by decide)
      (SplitsInto.follows (hF.expr _ _ _ tested) hresult)
    simpa [spellPieces, Piece.spelling, String.append_assoc] using hbranch

lemma follows_otherwise {ps : List Piece} {ts : List Token} (h : OtherwiseForm F ps ts) :
    Follows d (spellPieces ps) ts := by
  cases h with
  | none => exact follows_empty d
  | some h =>
    have helse : Opens d " ELSE " [.keyword "ELSE"] :=
      opens_marks [.blank, .word "ELSE", .blank] (by decide) (by decide)
    have hotherwise := helse.follows (by decide) (by decide) (hF.expr _ _ _ h)
    simpa [spellPieces, Piece.spelling] using hotherwise

omit hF in
lemma opens_duplicates {duplicates : String} {ds : List Token}
    (h : (duplicates, ds) ∈ duplicateTokens) : Opens d duplicates ds := by
  simp only [duplicateTokens, List.mem_cons, List.not_mem_nil, or_false, Prod.mk.injEq] at h
  rcases h with ⟨rfl, rfl⟩ | ⟨rfl, rfl⟩ | ⟨rfl, rfl⟩
  · exact opens_marks [] rfl rfl
  · exact opens_marks [.word "DISTINCT", .blank] (by decide) (by decide)
  · exact opens_marks [.word "ALL", .blank] (by decide) (by decide)

lemma splitsInto_operand {e : Expr} {ts : List Token} (h : OperandForm d F e ts) :
    SplitsInto d e.spelling ts := by
  cases h with
  | name first others => exact splitsInto_name (List.forall_mem_cons.2 ⟨first.rereads, others⟩)
  | number numeral => exact splitsInto_numeral numeral
  | string rereads => exact splitsInto_string rereads
  | null => exact splitsInto_marks_word [] "NULL" (by decide) (by decide) (by decide)
  | @truth w known =>
    have hplain : ∀ w ∈ ["true", "false"], isPlainIdentifier w = true := by decide
    exact splitsInto_ident (i := ⟨w, none⟩) (hplain w known)
  | nested inner => exact (follows_parens (hF.expr _ _ _ inner)).splits
  | query inner unwrapped =>
    have hquery := follows_parens (hF.query _ _ inner)
    simpa [Expr.spelling, spellPieces, Piece.spelling, String.append_assoc] using hquery.splits
  | @«exists» q negated ts inner =>
    have hopen : Opens d (if negated then "NOT EXISTS (" else "EXISTS (")
        (negationTokens negated ++ [Token.keyword "EXISTS", .symbol .lParen]) := by
      cases negated with
      | false => exact opens_marks [.word "EXISTS", .blank, .sign '(' .lParen] (by decide) (by decide)
      | true =>
        exact opens_marks [.word "NOT", .blank, .word "EXISTS", .blank, .sign '(' .lParen]
          (by decide) (by decide)
    have hquery := hopen.closed (hF.query _ _ inner)
    simpa [Expr.spelling, spellPieces, Piece.spelling, String.append_assoc] using hquery
  | call first others counted arguments =>
    have hname := splitsInto_name (List.forall_mem_cons.2 ⟨first.rereads, others⟩)
    have hlist := (opens_duplicates counted).append (splitsInto_listed spellPieces
      (fun _ _ => splitsInto_argument hF) arguments)
    have hparens := SplitsInto.follows hname (follows_parens hlist)
    simpa [Expr.spelling, spellPieces_inPieceParens, spellPieces, Piece.spelling,
      spellPieces_commaPieces] using hparens
  | callEmpty first others =>
    have hname := splitsInto_name (List.forall_mem_cons.2 ⟨first.rereads, others⟩)
    have hparens := SplitsInto.follows hname (follows_parens splitsInto_empty)
    simpa [Expr.spelling, spellPieces_inPieceParens, spellPieces] using hparens
  | @choice subject otherwise branches ts us vs compared nonempty tried last =>
    have hcase : SplitsInto d "CASE" [.keyword "CASE"] :=
      splitsInto_marks_word [] "CASE" (by decide) (by decide) (by decide)
    have hend : Follows d " END" [.keyword "END"] :=
      ⟨splitsInto_marks_word [.blank] "END" (by decide) (by decide) (by decide), by decide⟩
    have hbranches := follows_row spellPieces (fun _ _ => follows_branch hF) tried
    have hall := SplitsInto.follows (SplitsInto.follows (SplitsInto.follows
      (SplitsInto.follows hcase (follows_subject hF compared)) hbranches)
        (follows_otherwise hF last)) hend
    simpa [Expr.spelling, spellPieces_append, spellPieces_flatten, text, spellPieces, Piece.spelling,
      String.append_assoc] using hall

omit hF in
lemma opens_binary {op : BinaryOp} {t : Token} (h : (op, t) ∈ operatorTokens) :
    Opens d (" " ++ op.spelling ++ " ") [t] := by
  have hall : ∀ o ∈ operatorTokens,
      o.2 = .keyword o.1.spelling ∧ Mark.isKeyword o.1.spelling = true ∨
        ∃ s ∈ signOperators, o.2 = .symbol s ∧ o.1.spelling = s.spelling := by decide
  obtain ⟨htoken, hword⟩ | ⟨s, hsign, htoken, hspelling⟩ := hall _ h
  · obtain rfl : t = .keyword op.spelling := htoken
    exact opens_marks [.blank, .word op.spelling, .blank]
      (by simp [Mark.isPhrase, Mark.endsWord, hword]) (by simp [Mark.text])
  · obtain rfl : t = .symbol s := htoken
    rw [hspelling]
    exact opens_operator hsign

omit hF in
lemma follows_negation {w : String} (hw : Mark.isKeyword w = true) (negated : Bool) {a : String}
    {ts : List Token} (ha : SplitsInto d a ts) :
    Follows d (" " ++ negationText negated ++ w ++ " " ++ a)
      (negationTokens negated ++ .keyword w :: ts) := by
  have hword : Opens d (w ++ " ") [.keyword w] :=
    opens_marks [.word w, .blank] (by simp [Mark.isPhrase, Mark.endsWord, hw]) (by simp [Mark.text])
  have hnot : Opens d (" " ++ negationText negated) (negationTokens negated) := by
    cases negated with
    | false => exact opens_marks [.blank] (by decide) (by decide)
    | true => exact opens_marks [.blank, .word "NOT", .blank] (by decide) (by decide)
  have hboth := hnot.follows (startsWithStop_append (by decide) (by decide) _) (by simp)
    (hword.append ha)
  simpa [String.append_assoc] using hboth

lemma beginsOperand_operand {e : Expr} {ts : List Token} (h : OperandForm d F e ts) :
    BeginsOperand d e.spelling := by
  have hparen : ∀ text, BeginsOperand d ("(" ++ text) := fun text =>
    BeginsOperand.append (by cases d <;> decide) text
  cases h with
  | name first others => exact beginsOperand_name first.rereads _
  | number numeral => exact beginsOperand_numeral numeral
  | string rereads => exact beginsOperand_string _
  | null =>
    rw [Expr.spelling]
    cases d <;> decide
  | @truth w known =>
    have hplain : ∀ w ∈ ["true", "false"], isPlainIdentifier w = true := by decide
    exact beginsOperand_ident (i := ⟨w, none⟩) (hplain w known)
  | nested inner =>
    rw [Expr.spelling, String.append_assoc]
    exact hparen _
  | query inner unwrapped => exact hparen _
  | @«exists» q negated ts inner =>
    refine BeginsOperand.append ?_ _
    cases negated <;> cases d <;> decide
  | call first others counted arguments => exact (beginsOperand_name first.rereads _).append _
  | callEmpty first others => exact (beginsOperand_name first.rereads _).append _
  | choice compared nonempty tried last =>
    exact BeginsOperand.append (a := "CASE") (by cases d <;> decide) _

lemma beginsOperand_expr {p : Nat} {e : Expr} {ts : List Token} (h : ExprForm d F p e ts)
    (hhead : ∀ t ∈ ts.head?, t ≠ .symbol .minus) : BeginsOperand d e.spelling := by
  have hmore : ∀ {p l ts} (us : List Token), ExprForm d F p l ts →
      (∀ t ∈ (ts ++ us).head?, t ≠ .symbol .minus) → ∀ t ∈ ts.head?, t ≠ .symbol .minus := by
    intro p l ts us left hhead
    obtain ⟨t, vs, rfl, -⟩ := begins_expr left
    exact hhead
  induction h with
  | operand h => exact beginsOperand_operand hF h
  | not tighter inner unmerged =>
    exact BeginsOperand.append (a := "NOT ") (by cases d <;> decide) _
  | negative tighter inner unmerged => exact absurd rfl (hhead _ rfl)
  | binary operator tighter left right ih =>
    rw [Expr.spelling, String.append_assoc, String.append_assoc, String.append_assoc]
    exact (ih (hmore _ left hhead)).append _
  | test known tighter left ih => exact (ih (hmore _ left hhead)).append _
  | among tighter left items ih =>
    rw [List.append_assoc, List.append_assoc] at hhead
    exact (ih (hmore _ left hhead)).append _
  | isIn tighter left rows unwrapped ih =>
    rw [List.append_assoc, List.append_assoc] at hhead
    exact (ih (hmore _ left hhead)).append _
  | between tighter left lower upper ih =>
    rw [List.append_assoc, List.append_assoc] at hhead
    exact (ih (hmore _ left hhead)).append _
  | like tighter left right ih =>
    rw [List.append_assoc] at hhead
    exact (ih (hmore _ left hhead)).append _

lemma splitsInto_expr {p : Nat} {e : Expr} {ts : List Token} (h : ExprForm d F p e ts) :
    SplitsInto d e.spelling ts := by
  induction h with
  | operand h => exact splitsInto_operand hF h
  | not tighter inner unmerged =>
    have hword : Opens d "NOT " [.keyword "NOT"] :=
      opens_marks [.word "NOT", .blank] (by decide) (by decide)
    simpa [Expr.spelling, spellPieces, Piece.spelling] using hword.append (hF.expr _ _ _ inner)
  | negative tighter inner unmerged =>
    have hnegative := splitsInto_negative (hF.expr _ _ _ inner) (hF.begins _ _ _ inner unmerged)
    simpa [Expr.spelling, spellPieces, Piece.spelling] using hnegative
  | @binary p l r op t ts us operator tighter left right ih =>
    have hright := (opens_binary operator).follows (d := d)
      (startsWithStop_append (startsWithStop_append (by decide) (by decide) _) (by simp) _) (by simp)
      (hF.expr _ _ _ right)
    simpa [Expr.spelling, String.append_assoc] using SplitsInto.follows ih hright
  | @test p l keys ts known tighter left ih =>
    have htest : Follows d (" IS " ++ " ".intercalate keys)
        (.keyword "IS" :: keys.map Token.keyword) := by
      refine ⟨?_, startsWithStop_append (by decide) (by decide) _⟩
      simp only [Parser.isTests, List.mem_cons, List.not_mem_nil, or_false] at known
      rcases known with rfl | rfl | rfl | rfl | rfl | rfl | rfl | rfl
      · exact splitsInto_marks_word [.blank, .word "IS", .blank] "NULL" (by decide) (by decide)
          (by decide)
      · exact splitsInto_marks_word [.blank, .word "IS", .blank, .word "NOT", .blank] "NULL"
          (by decide) (by decide) (by decide)
      · exact splitsInto_marks_word [.blank, .word "IS", .blank] "TRUE" (by decide) (by decide)
          (by decide)
      · exact splitsInto_marks_word [.blank, .word "IS", .blank, .word "NOT", .blank] "TRUE"
          (by decide) (by decide) (by decide)
      · exact splitsInto_marks_word [.blank, .word "IS", .blank] "FALSE" (by decide) (by decide)
          (by decide)
      · exact splitsInto_marks_word [.blank, .word "IS", .blank, .word "NOT", .blank] "FALSE"
          (by decide) (by decide) (by decide)
      · exact splitsInto_marks_word [.blank, .word "IS", .blank] "UNKNOWN" (by decide) (by decide)
          (by decide)
      · exact splitsInto_marks_word [.blank, .word "IS", .blank, .word "NOT", .blank] "UNKNOWN"
          (by decide) (by decide) (by decide)
    simpa [Expr.spelling, spellPieces, Piece.spelling] using SplitsInto.follows ih htest
  | @among p l es negated ts us tighter left items ih =>
    have hlist := follows_parens (splitsInto_listed Expr.spelling (hF.expr 0) items)
    have htest := follows_negation (w := "IN") (by decide) negated hlist.splits
    simpa [Expr.spelling, spellPieces, Piece.spelling, spellPieces_inPieceParens,
      spellPieces_exprPieces, String.append_assoc] using SplitsInto.follows ih htest
  | @isIn p l q negated ts us tighter left rows unwrapped ih =>
    have hquery := follows_parens (hF.query _ _ rows)
    have htest := follows_negation (w := "IN") (by decide) negated hquery.splits
    simpa [Expr.spelling, spellPieces, Piece.spelling, spellPieces_inPieceParens,
      String.append_assoc] using SplitsInto.follows ih htest
  | @between p l low high negated ts us vs tighter left lower upper ih =>
    have hand : Opens d " AND " [.keyword "AND"] :=
      opens_marks [.blank, .word "AND", .blank] (by decide) (by decide)
    have hupper := hand.follows (by decide) (by decide) (hF.expr _ _ _ upper)
    have htest := follows_negation (w := "BETWEEN") (by decide) negated
      (SplitsInto.follows (hF.expr _ _ _ lower) hupper)
    simpa [Expr.spelling, spellPieces, Piece.spelling, String.append_assoc] using
      SplitsInto.follows ih htest
  | @like p l pattern negated ts us tighter left right ih =>
    have htest := follows_negation (w := "LIKE") (by decide) negated (hF.expr _ _ _ right)
    simpa [Expr.spelling, spellPieces, Piece.spelling, String.append_assoc] using
      SplitsInto.follows ih htest

end Expressions

section Queries

lemma splitsInto_idents {columns : List Ident} {ts : List Token}
    (h : Parser.Commas (IdentForm d) columns ts) :
    SplitsInto d (listed (columns.map Ident.spelling)) ts :=
  splitsInto_listed Ident.spelling
    (fun _ _ h => by
      cases h with
      | mk rereads => exact splitsInto_ident rereads) h

lemma splitsInto_given {i : Ident} {columns : List Ident} {ts : List Token}
    (rereads : RereadsName d i) (h : ColumnsForm d columns ts) :
    SplitsInto d (TableAlias.spelling ⟨i, columns⟩) (.word i.word :: ts) := by
  cases h with
  | nil => exact splitsInto_ident rereads
  | items named =>
    have hopen : Opens d " (" [.symbol .lParen] :=
      opens_marks [.blank, .sign '(' .lParen] (by decide) rfl
    have hcolumns := hopen.closed (splitsInto_idents named)
    have hstarts : StartsWithStop (" (" ++ listed (columns.map Ident.spelling) ++ ")") := by
      rw [String.append_assoc]
      exact startsWithStop_append (by decide) (by decide) _
    have hempty : columns.isEmpty = false := by
      cases named <;> rfl
    have hboth := (splitsInto_ident rereads).append hcolumns hstarts
    simpa [TableAlias.spelling, hempty, String.append_assoc] using hboth

lemma follows_alias {alias? : Option TableAlias} {ts : List Token} (h : AliasForm d alias? ts) :
    Follows d (asAlias alias?) ts := by
  cases h with
  | none => exact follows_empty d
  | some plain listed =>
    have has : Opens d " AS " [.keyword "AS"] :=
      opens_marks [.blank, .word "AS", .blank] (by decide) (by decide)
    exact has.follows (by decide) (by decide) (splitsInto_given plain.rereads listed)

variable (hF : F.Spelled d)

include hF

lemma follows_option (keyword : String) {ks : List Token}
    (hkeyword : Opens d (" " ++ keyword ++ " ") ks) {e? : Option Expr} {ts : List Token}
    (h : ClauseForm ks (F.expr 0) e? ts) : Follows d (spellOption keyword e?) ts := by
  cases h with
  | none => exact follows_empty d
  | some h =>
    rw [spellOption]
    have hstarts := startsWithStop_append (by decide : StartsWithStop " ") (by decide) keyword
    exact hkeyword.follows (startsWithStop_append hstarts (by simp) _) (by simp)
      (hF.expr _ _ _ h)

lemma splitsInto_factor {t : TableFactor} {ts : List Token} (h : FactorForm d F t ts) :
    SplitsInto d t.spelling ts := by
  cases h with
  | base first others named =>
    have hname := splitsInto_name (List.forall_mem_cons.2 ⟨first.rereads, others⟩)
    simpa [TableFactor.spelling, spellPieces] using
      SplitsInto.follows hname (follows_alias named)
  | @derived lateral q alias? ts us rows named =>
    have hopen : Opens d (if lateral then "LATERAL (" else "(")
        (lateralTokens lateral ++ [Token.symbol .lParen]) := by
      cases lateral with
      | false => exact opens_marks [.sign '(' .lParen] (by decide) (by decide)
      | true => exact opens_marks [.word "LATERAL", .blank, .sign '(' .lParen] (by decide) (by decide)
    have hrows := SplitsInto.follows (hopen.closed (hF.query _ _ rows)) (follows_alias named)
    simpa [TableFactor.spelling] using hrows

lemma follows_constraint {c : JoinConstraint} {ts : List Token} (h : ConstraintForm d F c ts) :
    Follows d c.spelling ts := by
  cases h with
  | on condition =>
    have hon : Opens d " ON " [.keyword "ON"] :=
      opens_marks [.blank, .word "ON", .blank] (by decide) (by decide)
    exact hon.follows (by decide) (by decide) (hF.expr _ _ _ condition)
  | @shared columns ts named =>
    have husing : Opens d " USING(" [.keyword "USING", .symbol .lParen] :=
      opens_marks [.blank, .word "USING", .sign '(' .lParen] (by decide) (by decide)
    refine ⟨husing.closed (splitsInto_idents named), ?_⟩
    rw [JoinConstraint.spelling, String.append_assoc]
    exact startsWithStop_append (by decide) (by decide) _
  | none => exact follows_empty d

omit hF in
lemma opens_join {op : JoinOp} {ks : List Token} (h : (op, ks) ∈ joinTokens ++ crossTokens) :
    Opens d (" " ++ op.spelling ++ " ") ks := by
  have hall : ∀ o ∈ joinTokens ++ crossTokens, Mark.isPhrase (Mark.spaced o.2) = true ∧
      (Mark.spaced o.2).flatMap Mark.tokens = o.2 ∧
        (" " ++ o.1.spelling ++ " ").toList = (Mark.spaced o.2).flatMap Mark.text := by decide
  obtain ⟨hphrase, htokens, htext⟩ := hall _ h
  exact opens_spaced hphrase htokens htext

omit hF in
lemma opens_natural {op : JoinOp} {ks : List Token} (h : (op, ks) ∈ joinTokens) :
    Opens d (" NATURAL " ++ op.spelling ++ " ") (.keyword "NATURAL" :: ks) := by
  have hall : ∀ o ∈ joinTokens, let ks := Token.keyword "NATURAL" :: o.2
      Mark.isPhrase (Mark.spaced ks) = true ∧ (Mark.spaced ks).flatMap Mark.tokens = ks ∧
        (" NATURAL " ++ o.1.spelling ++ " ").toList = (Mark.spaced ks).flatMap Mark.text := by decide
  obtain ⟨hphrase, htokens, htext⟩ := hall _ h
  exact opens_spaced hphrase htokens htext

omit hF in
lemma startsWithStop_join (op : JoinOp) : StartsWithStop (" " ++ op.spelling ++ " ") :=
  startsWithStop_append (startsWithStop_append (by decide : StartsWithStop " ") (by decide) _)
    (by simp) _

lemma follows_join {j : Join} {ts : List Token} (h : JoinForm d F j ts) :
    Follows d j.spelling ts := by
  cases h with
  | @constrained op relation constraint ks ts us operator right matched =>
    have hfactor := (opens_join (List.mem_append_left _ operator)).follows (startsWithStop_join op)
      (by simp) (splitsInto_factor hF right)
    have hjoin := hfactor.follows (follows_constraint hF matched)
    cases matched <;> simpa [Join.spelling, String.append_assoc] using hjoin
  | @natural op relation ks ts operator right =>
    have hjoin := (opens_natural operator).follows (startsWithStop_append
      (startsWithStop_append (by decide : StartsWithStop " NATURAL ") (by decide) _) (by simp) _)
      (by simp) (splitsInto_factor hF right)
    simpa [Join.spelling, JoinConstraint.spelling] using hjoin
  | @cross op relation ks ts operator right =>
    have hjoin := (opens_join (List.mem_append_right _ operator)).follows (startsWithStop_join op)
      (by simp) (splitsInto_factor hF right)
    simpa [Join.spelling, JoinConstraint.spelling] using hjoin

lemma follows_joins {js : List Join} {ts : List Token} (h : Row (JoinForm d F) js ts) :
    Follows d (spellJoins js) ts := by
  have hjoins : spellJoins js = String.join (js.map Join.spelling) := by
    clear h
    induction js with
    | nil => rfl
    | cons j js ih => rw [spellJoins, ih, List.map_cons, String.join_cons]
  rw [hjoins]
  exact follows_row Join.spelling (fun _ _ => follows_join hF) h

lemma splitsInto_table {t : TableWithJoins} {ts : List Token} (h : TableForm d F t ts) :
    SplitsInto d t.spelling ts := by
  cases h with
  | mk first others =>
    rw [TableWithJoins.spelling]
    exact SplitsInto.follows (splitsInto_factor hF first) (follows_joins hF others)

lemma splitsInto_item {i : SelectItem} {ts : List Token} (h : ItemForm d F i ts) :
    SplitsInto d i.spelling ts := by
  cases h with
  | wildcard => exact (opens_marks [.sign '*' .mul] (by decide) rfl).splitsInto
  | @qualified i n first others =>
    intro rest us hrest hsplits
    have hname := List.forall_mem_cons.2 ⟨first.rereads, others⟩
    have hsign := step_sign d (by decide : ('*', Symbol.mul) ∈ signs) rest
    have hperiod : step d ('.' :: '*' :: rest) = .ok (.token (.symbol .period), '*' :: rest) :=
      step_period d fun c hc => by rw [← Option.some.inj hc]; decide
    have hend : Splits d ('.' :: '*' :: rest) (.symbol .period :: .symbol .mul :: us) :=
      .token hperiod (by simp) (.token hsign (by simp) hsplits)
    have hstops : NameStops ('.' :: '*' :: rest) := fun c hc => .inr (Option.some.inj hc).symm
    have hall := Splits.name hstops hend hname
    simpa [SelectItem.spelling, spellPieces] using hall
  | expr h named => exact hF.expr _ _ _ h
  | @given e i ts h named rereads =>
    have has : Opens d " AS " [.keyword "AS"] :=
      opens_marks [.blank, .word "AS", .blank] (by decide) (by decide)
    have halias := has.follows (by decide) (by decide) (splitsInto_ident rereads)
    simpa [SelectItem.spelling, String.append_assoc] using
      SplitsInto.follows (hF.expr _ _ _ h) halias

omit hF in
lemma factor_ne_nil {t : TableFactor} {ts : List Token} (h : FactorForm d F t ts) : ts ≠ [] := by
  cases h with
  | @base i n alias? ts first others named =>
    obtain ⟨us, hus⟩ := tokens_name i n
    simp [hus]
  | derived rows named => simp

omit hF in
lemma table_ne_nil {t : TableWithJoins} {ts : List Token} (h : TableForm d F t ts) : ts ≠ [] := by
  cases h with
  | mk first others => simp [factor_ne_nil first]

variable (hR : F.Regular)

include hR

omit hF in
lemma expr_ne_nil {p : Nat} {e : Expr} {ts : List Token} (h : F.expr p e ts) : ts ≠ [] := by
  obtain ⟨t, us, rfl, -⟩ := hR.begins _ _ _ h
  exact List.cons_ne_nil _ _

omit hF in
lemma key_ne_nil {k : OrderKey} {ts : List Token} (h : KeyForm F k ts) : ts ≠ [] := by
  cases h with
  | mk h directed => simp [expr_ne_nil hR h]

omit hF hR in
lemma opens_select {distinct : Distinct} {ts : List Token} (h : DistinctForm distinct ts) :
    Opens d ("SELECT" ++ distinct.spelling ++ " ") (.keyword "SELECT" :: ts) := by
  cases h with
  | none =>
    have htext : "SELECT" ++ Distinct.none.spelling ++ " " = "SELECT " := rfl
    rw [htext]
    exact opens_marks [.word "SELECT", .blank] (by decide) (by decide)
  | rows =>
    have htext : "SELECT" ++ Distinct.rows.spelling ++ " " = "SELECT DISTINCT " := rfl
    rw [htext]
    exact opens_marks [.word "SELECT", .blank, .word "DISTINCT", .blank] (by decide) (by decide)

lemma splitsInto_select {s : Select} {ts : List Token} (h : SelectForm d F s ts) :
    SplitsInto d s.spelling ts := by
  cases h with
  | @mk distinct items tables condition having groupBy ds is ts cs gs hs distinguished selected
      source tested grouped kept =>
    have hitems := (opens_select distinguished).append
      (splitsInto_listed SelectItem.spelling (fun _ _ => splitsInto_item hF) selected)
    have hsource := follows_clause TableWithJoins.spelling "FROM "
      (opens_marks [.blank, .word "FROM", .blank] (by decide) (by decide))
      (fun _ _ => splitsInto_table hF) (fun _ _ => table_ne_nil) source
    have htested := follows_option hF "WHERE"
      (opens_marks [.blank, .word "WHERE", .blank] (by decide) (by decide)) tested
    have hgrouped := follows_clause Expr.spelling "GROUP BY "
      (opens_marks [.blank, .word "GROUP", .blank, .word "BY", .blank] (by decide) (by decide))
      (hF.expr 0) (fun _ _ => expr_ne_nil hR) grouped
    have hkept := follows_option hF "HAVING"
      (opens_marks [.blank, .word "HAVING", .blank] (by decide) (by decide)) kept
    have hall := SplitsInto.follows (SplitsInto.follows (SplitsInto.follows
      (SplitsInto.follows hitems hsource) htested) hgrouped) hkept
    unfold Select.spelling
    simpa [spellItems_eq, spellTables_eq, spellExprs_eq, spellPieces, String.join,
      String.append_assoc] using hall

omit hR in
lemma splitsInto_key {k : OrderKey} {ts : List Token} (h : KeyForm F k ts) :
    SplitsInto d k.spelling ts := by
  cases h with
  | @mk e direction ts ds h directed =>
    simpa [OrderKey.spelling, spellPieces] using
      SplitsInto.follows (hF.expr _ _ _ h) (follows_suffix (List.mem_append_left _ directed))

omit hF hR in
lemma opens_setOp (op : SetOp) {quantifier : String} {qs : List Token}
    (h : (quantifier, qs) ∈ quantifierTokens) :
    Opens d (" " ++ op.spelling ++ quantifier ++ " ") (.keyword op.spelling :: qs) := by
  have hall : ∀ o ∈ quantifierTokens, ∀ op ∈ [SetOp.union, .except, .intersect],
      let ks := Token.keyword op.spelling :: o.2
      Mark.isPhrase (Mark.spaced ks) = true ∧ (Mark.spaced ks).flatMap Mark.tokens = ks ∧
        (" " ++ op.spelling ++ o.1 ++ " ").toList = (Mark.spaced ks).flatMap Mark.text := by decide
  obtain ⟨hphrase, htokens, htext⟩ := hall _ h op (by cases op <;> decide)
  exact opens_spaced hphrase htokens htext

lemma splitsInto_body {p : Nat} {b : Body} {ts : List Token} (h : BodyForm d F p b ts) :
    SplitsInto d b.spelling ts := by
  induction h with
  | select h =>
    rw [Body.spelling]
    exact splitsInto_select hF hR h
  | query inner =>
    rw [Body.spelling]
    exact (follows_parens (hF.query _ _ inner)).splits
  | @setOp p l r op quantifier ts qs us tighter left unmerged quantified right ihl ihr =>
    have hright := (opens_setOp op quantified).follows (startsWithStop_append
      (startsWithStop_append (startsWithStop_append (by decide : StartsWithStop " ") (by decide) _)
        (by simp) _) (by simp) _) (by simp) ihr
    simpa [Body.spelling, String.append_assoc] using SplitsInto.follows ihl hright

omit hR in
lemma splitsInto_cte {c : Cte} {ts : List Token} (h : CteForm d F c ts) :
    SplitsInto d c.spelling ts := by
  cases h with
  | @mk i columns q materialized cs ms ts rereads listed computed allowed rows =>
    obtain ⟨opening, htext, hopen, hstarts⟩ : ∃ opening, Cte.spelling ⟨⟨i, columns⟩, q, none,
        materialized⟩ = TableAlias.spelling ⟨i, columns⟩ ++ (opening ++ q.spelling ++ ")") ∧
          Opens d opening (.keyword "AS" :: ms ++ [Token.symbol .lParen]) ∧
            StartsWithStop opening ∧ opening ≠ "" := by
      simp only [materialTokens, List.mem_cons, List.not_mem_nil, or_false, Prod.mk.injEq] at computed
      rcases computed with ⟨rfl, rfl⟩ | ⟨rfl, rfl⟩ | ⟨rfl, rfl⟩
      · exact ⟨" AS (", by simp [Cte.spelling, String.append_assoc],
          opens_marks [.blank, .word "AS", .blank, .sign '(' .lParen] (by decide) (by decide),
          by decide, by decide⟩
      · exact ⟨" AS MATERIALIZED (", by simp [Cte.spelling, String.append_assoc],
          opens_marks [.blank, .word "AS", .blank, .word "MATERIALIZED", .blank, .sign '(' .lParen]
            (by decide) (by decide), by decide, by decide⟩
      · exact ⟨" AS NOT MATERIALIZED (", by simp [Cte.spelling, String.append_assoc],
          opens_marks [.blank, .word "AS", .blank, .word "NOT", .blank, .word "MATERIALIZED", .blank,
            .sign '(' .lParen] (by decide) (by decide), by decide, by decide⟩
    have hrows := (splitsInto_given rereads listed).append (hopen.closed (hF.query _ _ rows))
      (by
        rw [String.append_assoc]
        exact startsWithStop_append hstarts.1 hstarts.2 _)
    rw [htext]
    simpa using hrows

omit hR in
lemma opens_with {recursive : Bool} {ctes : List Cte} {ts : List Token}
    (h : WithForm d F recursive ctes ts) :
    Opens d (if ctes.isEmpty then "" else (if recursive then "WITH RECURSIVE " else "WITH ")
      ++ listed (spellCtes ctes) ++ " ") ts := by
  cases h with
  | none => exact opens_marks [] rfl rfl
  | @tables _ _ ts h unmerged =>
    have hempty : ctes.isEmpty = false := by
      cases h <;> rfl
    have hopen : Opens d (if recursive then "WITH RECURSIVE " else "WITH ")
        (.keyword "WITH" :: recursiveTokens recursive) := by
      cases recursive with
      | false => exact opens_marks [.word "WITH", .blank] (by decide) (by decide)
      | true =>
        exact opens_marks [.word "WITH", .blank, .word "RECURSIVE", .blank] (by decide) (by decide)
    have hctes := splitsInto_listed Cte.spelling (fun _ _ => splitsInto_cte hF) h
    rw [hempty, if_neg Bool.false_ne_true, spellCtes_eq, String.append_assoc]
    exact hopen.opens hctes.blank

omit hR in
lemma follows_offset {tail : List Piece} {ts : List Token} (h : OffsetForm F tail ts) :
    Follows d (spellPieces tail) ts := by
  cases h with
  | none => exact follows_empty d
  | some h counted =>
    have hoffset : Opens d " OFFSET " [.keyword "OFFSET"] :=
      opens_marks [.blank, .word "OFFSET", .blank] (by decide) (by decide)
    have hrows := hoffset.follows (by decide) (by decide) (SplitsInto.follows (hF.expr _ _ _ h)
      (follows_suffix (List.mem_append_right _ counted)))
    simpa [spellPieces, Piece.spelling, String.append_assoc] using hrows

lemma splitsInto_query {q : Query} {ts : List Token} (h : QueryForm d F q ts) :
    SplitsInto d q.spelling ts := by
  cases h with
  | mk common rows sorted limited skipped =>
    have hsorted := follows_clause OrderKey.spelling "ORDER BY "
      (opens_marks [.blank, .word "ORDER", .blank, .word "BY", .blank] (by decide) (by decide))
      (fun _ _ => splitsInto_key hF) (fun _ _ => key_ne_nil hR) sorted
    have hlimited := follows_option hF "LIMIT"
      (opens_marks [.blank, .word "LIMIT", .blank] (by decide) (by decide)) limited
    have hall := SplitsInto.follows (SplitsInto.follows (SplitsInto.follows
      ((opens_with hF common).append (splitsInto_body hF hR rows)) hsorted) hlimited)
        (follows_offset hF skipped)
    unfold Query.spelling
    simpa only [spellKeys_eq, spellPieces, String.append_empty, List.append_assoc,
      String.append_assoc] using hall

omit hR in
lemma splitsInto_assignment {ps : List Piece} {ts : List Token} (h : AssignmentForm d F ps ts) :
    SplitsInto d (spellPieces ps) ts := by
  cases h with
  | @mk n e ts nonempty target h =>
    have hequals : Opens d " = " [.symbol .eq] := opens_operator (s := .eq) (by decide)
    have hvalue := hequals.follows (by decide) (by decide) (hF.expr _ _ _ h)
    have hname := splitsInto_name target
    simpa [spellPieces, Piece.spelling, String.append_assoc] using SplitsInto.follows hname hvalue

omit hF hR in
lemma splitsInto_tableName {n : Name} {ts : List Token} (h : NameForm d n ts) :
    SplitsInto d (Name.spelling n) ts := by
  cases h with
  | mk first others => exact splitsInto_name (List.forall_mem_cons.2 ⟨first.rereads, others⟩)

omit hR in
lemma splitsInto_targets {targets sources : List TableWithJoins} {ts : List Token}
    (h : TargetsForm d F targets sources ts) :
    SplitsInto d (listed (spellTables targets) ++ clause "USING " (listed (spellTables sources))) ts := by
  rw [spellTables_eq, spellTables_eq]
  cases h with
  | alone h =>
    have htargets := splitsInto_listed TableWithJoins.spelling (fun _ _ => splitsInto_table hF) h
    simpa [clause, listed] using htargets
  | sourced h source =>
    have hlone : ∀ t ts, LoneForm d F t ts → SplitsInto d t.spelling ts := by
      rintro _ ts ⟨h⟩
      simpa [TableWithJoins.spelling, spellJoins] using splitsInto_factor hF h
    have husing : Opens d (" " ++ "USING ") [.keyword "USING"] :=
      opens_marks [.blank, .word "USING", .blank] (by decide) (by decide)
    have hsources := follows_clause TableWithJoins.spelling "USING " husing
      (fun _ _ => splitsInto_table hF) (fun _ _ => table_ne_nil) (.items source)
    exact SplitsInto.follows (splitsInto_listed TableWithJoins.spelling hlone h) hsources

omit hR in
lemma splitsInto_statement {s : Statement} {ts : List Token} (h : StatementForm d F s ts) :
    SplitsInto d s.spelling ts := by
  cases h with
  | query h => exact hF.query _ _ h
  | @update target changes source? condition ts us fs cs table changed source allowed tested =>
    have hupdate : Opens d "UPDATE " [.keyword "UPDATE"] :=
      opens_marks [.word "UPDATE", .blank] (by decide) (by decide)
    have hset : Opens d " SET " [.keyword "SET"] :=
      opens_marks [.blank, .word "SET", .blank] (by decide) (by decide)
    have hchanges := hset.follows (by decide) (by decide)
      (splitsInto_listed spellPieces (fun _ _ => splitsInto_assignment hF) changed)
    have hsource : Follows d ((source?.map (" FROM " ++ TableWithJoins.spelling ·)).getD "") fs := by
      cases source with
      | none => exact follows_empty d
      | some h =>
        have hfrom : Opens d " FROM " [.keyword "FROM"] :=
          opens_marks [.blank, .word "FROM", .blank] (by decide) (by decide)
        exact hfrom.follows (by decide) (by decide) (splitsInto_table hF h)
    have htested := follows_option hF "WHERE"
      (opens_marks [.blank, .word "WHERE", .blank] (by decide) (by decide)) tested
    have hall := SplitsInto.follows (SplitsInto.follows (SplitsInto.follows
      (hupdate.append (splitsInto_table hF table)) hchanges) hsource) htested
    cases source? <;>
      simpa [Statement.spelling, Update.spelling, spellPieces, Piece.spelling,
        spellPieces_commaPieces, String.append_assoc] using hall
  | @delete named targets sources condition ns ts cs chosen allowed table tested =>
    have hdelete : Opens d "DELETE " [.keyword "DELETE"] :=
      opens_marks [.word "DELETE", .blank] (by decide) (by decide)
    have hfrom : Opens d "FROM " [.keyword "FROM"] :=
      opens_marks [.word "FROM", .blank] (by decide) (by decide)
    have hnames : Opens d (if named.isEmpty then "" else listed (named.map Name.spelling) ++ " ")
        ns := by
      cases chosen with
      | nil => exact opens_marks [] rfl rfl
      | items h =>
        have hempty : named.isEmpty = false := by
          cases h <;> rfl
        rw [hempty, if_neg Bool.false_ne_true]
        exact (splitsInto_listed Name.spelling (fun _ _ => splitsInto_tableName) h).blank
    have htested := follows_option hF "WHERE"
      (opens_marks [.blank, .word "WHERE", .blank] (by decide) (by decide)) tested
    have hall := SplitsInto.follows (((hdelete.opens hnames).opens hfrom).append
      (splitsInto_targets hF table)) htested
    simpa [Statement.spelling, Delete.spelling, spellPieces, String.append_assoc] using hall

end Queries

namespace Forms

lemma Spelled.next (hF : F.Spelled d) (hR : F.Regular) : (F.next d).Spelled d where
  expr _ _ _ := splitsInto_expr hF
  query _ _ := splitsInto_query hF hR
  begins _ _ _ h hhead := beginsOperand_expr hF h hhead

lemma spelled_within (d : Dialect) : (depth : Nat) → (within d depth).Spelled d
  | 0 => ⟨nofun, nofun, nofun⟩
  | depth + 1 => (spelled_within d depth).next (regular_within d depth)

end Forms

/-- Statements one after the other, semicolons between them. -/
inductive StatementsForm (d : Dialect) (F : Forms) : List Statement → List Token → Prop
  | one {s : Statement} {ts : List Token} (h : StatementForm d F s ts) : StatementsForm d F [s] ts
  | more {s : Statement} {ss : List Statement} {ts us : List Token} (h : StatementForm d F s ts)
      (others : StatementsForm d F ss us) :
      StatementsForm d F (s :: ss) (ts ++ .symbol .semiColon :: us)

lemma splitsInto_statements (hF : F.Spelled d) {ss : List Statement}
    {ts : List Token} (h : StatementsForm d F ss ts) : SplitsInto d (spellStatements ss) ts := by
  have hsemicolon : Opens d "; " [.symbol .semiColon] :=
    opens_marks [.sign ';' .semiColon, .blank] (by decide) (by decide)
  induction h with
  | one h => exact splitsInto_statement hF h
  | @more s ss ts us h others ih =>
    obtain ⟨s', ss', rfl⟩ : ∃ s' ss', ss = s' :: ss' := by
      cases others with
      | one h => exact ⟨_, _, rfl⟩
      | more h others => exact ⟨_, _, rfl⟩
    rw [spellStatements, List.map_cons, List.map_cons, String.intercalate_cons_cons,
      String.append_assoc]
    exact SplitsInto.follows (splitsInto_statement hF h)
      (hsemicolon.follows (by decide) (by decide) ih)

end RowFence.Sql
