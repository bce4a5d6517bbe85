import RowFence.Proofs.Sql.ClosedSigns
import RowFence.Proofs.Sql.Forms

/-! What the tokens of forms have in common: how they begin, and that all of them are plain. -/

namespace RowFence.Sql

variable {d : Dialect} {F : Forms}

/-- An expression begins with a word that opens no clause, with a literal, with a minus sign or in
parentheses. -/
def Token.beginsExpr : Token → Bool
  | .word w => !clauseWords.contains w.key
  | .number _ _ => true
  | .string .single _ => true
  | .symbol .lParen | .symbol .minus => true
  | _ => false

/-- A query begins with one of these. -/
def queryStarts : List Token := [.keyword "SELECT", .keyword "WITH", .symbol .lParen]

def Plain (ts : List Token) : Prop := ∀ t ∈ ts, t.isPlain = true

@[simp] lemma plain_nil : Plain [] := fun _ h => nomatch h

@[simp] lemma plain_cons {t : Token} {ts : List Token} :
    Plain (t :: ts) ↔ t.isPlain = true ∧ Plain ts := List.forall_mem_cons

@[simp] lemma plain_append {ts us : List Token} : Plain (ts ++ us) ↔ Plain ts ∧ Plain us :=
  List.forall_mem_append

@[simp] lemma isPlain_word (w : Word) : (Token.word w).isPlain = true := rfl

@[simp] lemma isPlain_keyword (w : String) : (Token.keyword w).isPlain = true := rfl

@[simp] lemma isPlain_number (digits : String) (long : Bool) :
    (Token.number digits long).isPlain = true := rfl

@[simp] lemma isPlain_string (body : String) : (Token.string .single body).isPlain = true := rfl

@[simp] lemma isPlain_symbol (s : Symbol) :
    (Token.symbol s).isPlain = plainSymbols.contains s := rfl

lemma plain_name : (n : Name) → Plain n.tokens
  | [] => plain_nil
  | [i] => by simp [Name.tokens]
  | i :: j :: n => by
    have hothers := plain_name (j :: n)
    simp only [Name.tokens, plain_cons, hothers, and_true]
    exact ⟨rfl, by decide⟩

namespace Forms

/-- What is true of the tokens of all forms. -/
structure Regular (F : Forms) : Prop where
  begins : ∀ p e ts, F.expr p e ts → ∃ t us, ts = t :: us ∧ t.beginsExpr = true
  filled : ∀ p e ts us, F.expr p e ts → ts = .symbol .lParen :: us →
    ∃ t vs, us = t :: vs ∧ t ≠ .symbol .rParen
  starts : ∀ q ts, F.query q ts → ∃ t us, ts = t :: us ∧ t ∈ queryStarts
  exprPlain : ∀ p e ts, F.expr p e ts → Plain ts
  queryPlain : ∀ q ts, F.query q ts → Plain ts

end Forms

section Plain

variable {α : Type} {R : α → List Token → Prop}

lemma plain_commas (hR : ∀ a ts, R a ts → Plain ts) {as : List α} {ts : List Token}
    (h : Parser.Commas R as ts) : Plain ts := by
  induction h with
  | one h => exact hR _ _ h
  | more h others ih => simp [hR _ _ h, ih]

lemma plain_row (hR : ∀ a ts, R a ts → Plain ts) {as : List α} {ts : List Token}
    (h : Row R as ts) : Plain ts := by
  induction h with
  | nil => exact plain_nil
  | cons h others ih => simp [hR _ _ h, ih]

lemma plain_list (hR : ∀ a ts, R a ts → Plain ts) {ks : List Token} (hks : Plain ks) {as : List α}
    {ts : List Token} (h : ListForm ks R as ts) : Plain ts := by
  cases h with
  | nil => exact plain_nil
  | items h => simp [hks, plain_commas hR h]

lemma plain_clause (hR : ∀ a ts, R a ts → Plain ts) {ks : List Token} (hks : Plain ks)
    {a? : Option α} {ts : List Token} (h : ClauseForm ks R a? ts) : Plain ts := by
  cases h with
  | none => exact plain_nil
  | some h => simp [hks, hR _ _ h]

variable (hF : F.Regular)

include hF

lemma plain_argument {ps : List Piece} {ts : List Token} (h : ArgumentForm F ps ts) : Plain ts := by
  cases h with
  | all => simp
  | expr h => exact hF.exprPlain _ _ _ h

lemma plain_subject {ps : List Piece} {ts : List Token} (h : SubjectForm F ps ts) : Plain ts := by
  cases h with
  | none => exact plain_nil
  | some h unmerged => exact hF.exprPlain _ _ _ h

lemma plain_branch {ps : List Piece} {ts : List Token} (h : BranchForm F ps ts) : Plain ts := by
  cases h with
  | mk tested chosen => simp [hF.exprPlain _ _ _ tested, hF.exprPlain _ _ _ chosen]

lemma plain_otherwise {ps : List Piece} {ts : List Token} (h : OtherwiseForm F ps ts) :
    Plain ts := by
  cases h with
  | none => exact plain_nil
  | some h => simpa using hF.exprPlain _ _ _ h

omit hF in
lemma plain_negation (negated : Bool) : Plain (negationTokens negated) := by
  cases negated <;> simp [negationTokens]

lemma plain_operand {e : Expr} {ts : List Token} (h : OperandForm d F e ts) : Plain ts := by
  cases h with
  | name first others => exact plain_name _
  | number numeral => simp
  | string rereads => simp
  | null => simp
  | truth known => simp
  | nested inner => simpa using hF.exprPlain _ _ _ inner
  | query inner unwrapped => simpa using hF.queryPlain _ _ inner
  | «exists» inner => simpa [plain_negation] using hF.queryPlain _ _ inner
  | @call i n duplicates items ds ts first others counted arguments =>
    have hds : ∀ o ∈ duplicateTokens, ∀ t ∈ o.2, t.isPlain = true := by decide
    have hcounted : Plain ds := hds _ counted
    simpa [plain_name, hcounted] using plain_commas (fun _ _ => plain_argument hF) arguments
  | callEmpty first others => simp [plain_name]
  | choice compared nonempty tried last =>
    simp [plain_subject hF compared, plain_row (fun _ _ => plain_branch hF) tried,
      plain_otherwise hF last]

lemma plain_expr {p : Nat} {e : Expr} {ts : List Token} (h : ExprForm d F p e ts) : Plain ts := by
  induction h with
  | operand h => exact plain_operand hF h
  | not tighter inner unmerged => simpa using hF.exprPlain _ _ _ inner
  | negative tighter inner unmerged => simpa using hF.exprPlain _ _ _ inner
  | @binary p l r op t ts us operator tighter left right ih =>
    have ht : ∀ o ∈ operatorTokens, o.2.isPlain = true := by decide
    simpa [ih, hF.exprPlain _ _ _ right] using ht _ operator
  | @test p l keys ts known tighter left ih =>
    have hkeys : Plain (keys.map Token.keyword) :=
      List.forall_mem_map.2 fun w _ => isPlain_keyword w
    simp [ih, hkeys]
  | among tighter left items ih =>
    simpa [ih, plain_negation] using plain_commas (hF.exprPlain 0) items
  | isIn tighter left rows unwrapped ih =>
    simpa [ih, plain_negation] using hF.queryPlain _ _ rows
  | between tighter left lower upper ih =>
    simpa [ih, plain_negation] using ⟨hF.exprPlain _ _ _ lower, hF.exprPlain _ _ _ upper⟩
  | like tighter left right ih => simpa [ih, plain_negation] using hF.exprPlain _ _ _ right

omit hF in
lemma plain_columns {columns : List Ident} {ts : List Token} (h : ColumnsForm d columns ts) :
    Plain ts := by
  cases h with
  | nil => exact plain_nil
  | items named =>
    have hall := plain_commas (fun i ts (h : IdentForm d i ts) => by cases h; simp) named
    simpa using hall

omit hF in
lemma plain_alias {alias? : Option TableAlias} {ts : List Token} (h : AliasForm d alias? ts) :
    Plain ts := by
  cases h with
  | none => exact plain_nil
  | some plain listed => simpa using plain_columns listed

lemma plain_factor {t : TableFactor} {ts : List Token} (h : FactorForm d F t ts) : Plain ts := by
  cases h with
  | base first others named => simp [plain_name, plain_alias named]
  | @derived lateral q alias? ts us rows named =>
    have hlateral : Plain (lateralTokens lateral) := by cases lateral <;> simp [lateralTokens]
    simp [hlateral, hF.queryPlain _ _ rows, plain_alias named]

lemma plain_constraint {c : JoinConstraint} {ts : List Token} (h : ConstraintForm d F c ts) :
    Plain ts := by
  cases h with
  | on condition => simpa using hF.exprPlain _ _ _ condition
  | shared named => simpa using plain_columns (.items named)
  | none => exact plain_nil

lemma plain_join {j : Join} {ts : List Token} (h : JoinForm d F j ts) : Plain ts := by
  have hks : ∀ o ∈ joinTokens ++ crossTokens, Plain o.2 := by
    have hall : ∀ o ∈ joinTokens ++ crossTokens, ∀ t ∈ o.2, t.isPlain = true := by decide
    exact hall
  cases h with
  | constrained operator right matched =>
    simp [hks _ (List.mem_append_left _ operator), plain_factor hF right, plain_constraint hF matched]
  | natural operator right =>
    simp [hks _ (List.mem_append_left _ operator), plain_factor hF right]
  | cross operator right =>
    simp [hks _ (List.mem_append_right _ operator), plain_factor hF right]

lemma plain_table {t : TableWithJoins} {ts : List Token} (h : TableForm d F t ts) : Plain ts := by
  cases h with
  | @mk relation joins ts us first others =>
    simp [plain_factor hF first, plain_row (fun _ _ => plain_join hF) others]

lemma plain_item {i : SelectItem} {ts : List Token} (h : ItemForm d F i ts) : Plain ts := by
  cases h with
  | wildcard => simp
  | qualified first others => simp [plain_name]
  | expr h named => exact hF.exprPlain _ _ _ h
  | given h named rereads => simpa using hF.exprPlain _ _ _ h

lemma plain_select {s : Select} {ts : List Token} (h : SelectForm d F s ts) : Plain ts := by
  cases h with
  | @mk distinct items tables condition having groupBy ds is ts cs gs hs distinguished selected
      source tested grouped kept =>
    have hds : Plain ds := by cases distinguished <;> simp
    simp [hds, plain_commas (fun _ _ => plain_item hF) selected,
      plain_list (fun _ _ => plain_table hF) (by simp) source,
      plain_clause (hF.exprPlain 0) (by simp) tested, plain_list (hF.exprPlain 0) (by simp) grouped,
      plain_clause (hF.exprPlain 0) (by simp) kept]

lemma plain_key {k : OrderKey} {ts : List Token} (h : KeyForm F k ts) : Plain ts := by
  cases h with
  | @mk e direction ts ds h directed =>
    have hds : ∀ o ∈ directionTokens, ∀ t ∈ o.2, t.isPlain = true := by decide
    have hdirection : Plain ds := hds _ directed
    simp [hF.exprPlain _ _ _ h, hdirection]

lemma plain_body {p : Nat} {b : Body} {ts : List Token} (h : BodyForm d F p b ts) : Plain ts := by
  induction h with
  | select h => exact plain_select hF h
  | query inner => simpa using hF.queryPlain _ _ inner
  | @setOp p l r op quantifier ts qs us tighter left unmerged quantified right ihl ihr =>
    have hqs : ∀ o ∈ quantifierTokens, ∀ t ∈ o.2, t.isPlain = true := by decide
    have hquantifier : Plain qs := hqs _ quantified
    simp [ihl, hquantifier, ihr]

lemma plain_cte {c : Cte} {ts : List Token} (h : CteForm d F c ts) : Plain ts := by
  cases h with
  | @mk i columns q materialized cs ms ts rereads listed computed allowed rows =>
    have hms : ∀ o ∈ materialTokens, ∀ t ∈ o.2, t.isPlain = true := by decide
    have hmaterial : Plain ms := hms _ computed
    simp [plain_columns listed, hmaterial, hF.queryPlain _ _ rows]

lemma plain_with {recursive : Bool} {ctes : List Cte} {ts : List Token}
    (h : WithForm d F recursive ctes ts) : Plain ts := by
  cases h with
  | none => exact plain_nil
  | tables h unmerged =>
    have hrecursive : Plain (recursiveTokens recursive) := by
      cases recursive <;> simp [recursiveTokens]
    simp [hrecursive, plain_commas (fun _ _ => plain_cte hF) h]

lemma plain_offset {tail : List Piece} {ts : List Token} (h : OffsetForm F tail ts) : Plain ts := by
  cases h with
  | none => exact plain_nil
  | @some e unit ts us h counted =>
    have hus : ∀ o ∈ unitTokens, ∀ t ∈ o.2, t.isPlain = true := by decide
    have hunit : Plain us := hus _ counted
    simp [hF.exprPlain _ _ _ h, hunit]

lemma plain_query {q : Query} {ts : List Token} (h : QueryForm d F q ts) : Plain ts := by
  cases h with
  | mk common rows sorted limited skipped =>
    simp [plain_with hF common, plain_body hF rows,
      plain_list (fun _ _ => plain_key hF) (by simp) sorted,
      plain_clause (hF.exprPlain 0) (by simp) limited, plain_offset hF skipped]

end Plain

section Beginnings

lemma tokens_name (i : Ident) (n : Name) : ∃ us, Name.tokens (i :: n) = .word i.word :: us := by
  cases n <;> exact ⟨_, rfl⟩

lemma beginsExpr_of_isPlainName {i : Ident} (h : IsPlainName d i) :
    (Token.word i.word).beginsExpr = true := by
  have hclause : i.word.key ∉ clauseWords := fun hmem =>
    h.free (List.mem_append_right _ hmem)
  simpa [Token.beginsExpr] using hclause

lemma begins_operand {e : Expr} {ts : List Token} (h : OperandForm d F e ts) :
    ∃ t us, ts = t :: us ∧ t.beginsExpr = true := by
  cases h with
  | @name i n first others =>
    obtain ⟨us, hus⟩ := tokens_name i n
    exact ⟨_, us, hus, beginsExpr_of_isPlainName first⟩
  | @call i n duplicates items ds ts first others counted arguments =>
    obtain ⟨us, hus⟩ := tokens_name i n
    exact ⟨_, _, by rw [hus]; rfl, beginsExpr_of_isPlainName first⟩
  | @callEmpty i n first others =>
    obtain ⟨us, hus⟩ := tokens_name i n
    exact ⟨_, _, by rw [hus]; rfl, beginsExpr_of_isPlainName first⟩
  | number numeral => exact ⟨_, _, rfl, rfl⟩
  | string rereads => exact ⟨_, _, rfl, rfl⟩
  | null => exact ⟨_, _, rfl, by decide⟩
  | @truth w known =>
    simp only [List.mem_cons, List.not_mem_nil, or_false] at known
    rcases known with rfl | rfl <;> exact ⟨_, _, rfl, by decide⟩
  | nested inner => exact ⟨_, _, rfl, rfl⟩
  | query inner unwrapped => exact ⟨_, _, rfl, rfl⟩
  | choice compared nonempty tried last => exact ⟨_, _, rfl, by decide⟩
  | @«exists» q negated ts inner => cases negated <;> exact ⟨_, _, rfl, by decide⟩

lemma begins_expr {p : Nat} {e : Expr} {ts : List Token} (h : ExprForm d F p e ts) :
    ∃ t us, ts = t :: us ∧ t.beginsExpr = true := by
  induction h with
  | operand h => exact begins_operand h
  | not tighter inner unmerged => exact ⟨_, _, rfl, by decide⟩
  | negative tighter inner unmerged => exact ⟨_, _, rfl, rfl⟩
  | binary operator tighter left right ih =>
    obtain ⟨t, us, rfl, ht⟩ := ih
    exact ⟨t, _, rfl, ht⟩
  | test known tighter left ih =>
    obtain ⟨t, us, rfl, ht⟩ := ih
    exact ⟨t, _, rfl, ht⟩
  | among tighter left items ih =>
    obtain ⟨t, us, rfl, ht⟩ := ih
    exact ⟨t, _, rfl, ht⟩
  | isIn tighter left rows unwrapped ih =>
    obtain ⟨t, us, rfl, ht⟩ := ih
    exact ⟨t, _, rfl, ht⟩
  | between tighter left lower upper ih =>
    obtain ⟨t, us, rfl, ht⟩ := ih
    exact ⟨t, _, rfl, ht⟩
  | like tighter left right ih =>
    obtain ⟨t, us, rfl, ht⟩ := ih
    exact ⟨t, _, rfl, ht⟩

lemma filled_operand (hF : F.Regular) {e : Expr} {ts us : List Token} (h : OperandForm d F e ts)
    (hts : ts = .symbol .lParen :: us) : ∃ t vs, us = t :: vs ∧ t ≠ .symbol .rParen := by
  cases h with
  | @name i n first others =>
    obtain ⟨vs, hvs⟩ := tokens_name i n
    rw [hvs] at hts
    cases hts
  | @call i n duplicates items ds vs first others counted arguments =>
    obtain ⟨ws, hws⟩ := tokens_name i n
    rw [hws] at hts
    cases hts
  | @callEmpty i n first others =>
    obtain ⟨ws, hws⟩ := tokens_name i n
    rw [hws] at hts
    cases hts
  | nested inner =>
    obtain ⟨t, vs, rfl, hbegin⟩ := hF.begins _ _ _ inner
    refine ⟨t, _, (List.cons.inj hts).2.symm, ?_⟩
    rintro rfl
    cases hbegin
  | query inner unwrapped =>
    obtain ⟨t, vs, rfl, hstart⟩ := hF.starts _ _ inner
    refine ⟨t, _, (List.cons.inj hts).2.symm, ?_⟩
    rintro rfl
    exact absurd hstart (by decide)
  | @«exists» q negated ts inner => cases negated <;> cases hts
  | _ => cases hts

lemma filled_expr (hF : F.Regular) {p : Nat} {e : Expr} {ts us : List Token}
    (h : ExprForm d F p e ts) (hts : ts = .symbol .lParen :: us) :
    ∃ t vs, us = t :: vs ∧ t ≠ .symbol .rParen := by
  have hmore : ∀ {ts vs us : List Token}, (∃ t us, ts = t :: us ∧ t.beginsExpr = true) →
      (∀ us, ts = .symbol .lParen :: us → ∃ t vs, us = t :: vs ∧ t ≠ .symbol .rParen) →
      ts ++ vs = .symbol .lParen :: us → ∃ t vs, us = t :: vs ∧ t ≠ .symbol .rParen := by
    rintro ts vs us ⟨t, ws, rfl, -⟩ hfilled hts
    obtain ⟨rfl, hus⟩ := List.cons.inj hts
    obtain ⟨t, xs, rfl, ht⟩ := hfilled ws rfl
    exact ⟨t, _, hus.symm, ht⟩
  induction h generalizing us with
  | operand h => exact filled_operand hF h hts
  | not tighter inner unmerged => cases hts
  | negative tighter inner unmerged => cases hts
  | binary operator tighter left right ih => exact hmore (begins_expr left) (fun _ => ih) hts
  | test known tighter left ih => exact hmore (begins_expr left) (fun _ => ih) hts
  | among tighter left items ih =>
    rw [List.append_assoc, List.append_assoc] at hts
    exact hmore (begins_expr left) (fun _ => ih) hts
  | isIn tighter left rows unwrapped ih =>
    rw [List.append_assoc, List.append_assoc] at hts
    exact hmore (begins_expr left) (fun _ => ih) hts
  | between tighter left lower upper ih =>
    rw [List.append_assoc, List.append_assoc] at hts
    exact hmore (begins_expr left) (fun _ => ih) hts
  | like tighter left right ih =>
    rw [List.append_assoc] at hts
    exact hmore (begins_expr left) (fun _ => ih) hts

lemma selects_select {s : Select} {ts : List Token} (h : SelectForm d F s ts) :
    ∃ us, ts = .keyword "SELECT" :: us := by
  cases h with
  | mk => exact ⟨_, rfl⟩

lemma starts_body {p : Nat} {b : Body} {ts : List Token} (h : BodyForm d F p b ts) :
    ∃ t us, ts = t :: us ∧ t ∈ [.keyword "SELECT", .symbol .lParen] := by
  induction h with
  | select h =>
    obtain ⟨us, rfl⟩ := selects_select h
    exact ⟨_, us, rfl, by decide⟩
  | query inner => exact ⟨_, _, rfl, by decide⟩
  | setOp tighter left unmerged quantified right ihl ihr =>
    obtain ⟨t, us, rfl, ht⟩ := ihl
    exact ⟨t, _, rfl, ht⟩

lemma starts_query {q : Query} {ts : List Token} (h : QueryForm d F q ts) :
    ∃ t us, ts = t :: us ∧ t ∈ queryStarts := by
  cases h with
  | mk common rows sorted limited skipped =>
    cases common with
    | none =>
      obtain ⟨t, us, rfl, ht⟩ := starts_body rows
      have hsub : ∀ t ∈ [.keyword "SELECT", .symbol .lParen], t ∈ queryStarts := by decide
      exact ⟨t, _, rfl, hsub t ht⟩
    | tables h unmerged => exact ⟨_, _, rfl, by decide⟩

end Beginnings

namespace Forms

lemma Regular.begins_commas (hF : F.Regular) {es : List Expr} {ts : List Token}
    (h : Parser.Commas (F.expr 0) es ts) : ∃ t us, ts = t :: us ∧ t.beginsExpr = true :=
  h.begins (hF.begins 0)

lemma Regular.next (hF : F.Regular) : (F.next d).Regular where
  begins _ _ _ := begins_expr
  filled _ _ _ _ h := filled_expr hF h
  starts _ _ := starts_query
  exprPlain _ _ _ := plain_expr hF
  queryPlain _ _ := plain_query hF

lemma regular_within (d : Dialect) : (depth : Nat) → (within d depth).Regular
  | 0 => ⟨nofun, nofun, nofun, nofun, nofun⟩
  | depth + 1 => (regular_within d depth).next

end Forms

end RowFence.Sql
