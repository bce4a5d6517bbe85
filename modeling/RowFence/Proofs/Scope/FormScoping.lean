import RowFence.Proofs.Scope.Additions
import RowFence.Proofs.Sql.FormDepth
import RowFence.Proofs.Sql.FormTokens

/-! Scoping takes forms to forms. Each predicate that is added may cost one level of parentheses. -/

namespace RowFence.Scope

open Sql

namespace Counted

variable {α β : Type}

@[simp] lemma value_map (f : α → β) (m : Counted α) : (f <$> m).value = f m.value := rfl

@[simp] lemma added_map (f : α → β) (m : Counted α) : (f <$> m).added = m.added := rfl

end Counted

section Lists

variable {α : Type} {f : α → Counted α} {R S : α → List Token → Prop} {b : Nat}

@[simp] lemma value_mapM_cons (a : α) (as : List α) :
    ((a :: as).mapM f).value = (f a).value :: (as.mapM f).value := by
  rw [List.mapM_cons]
  rfl

@[simp] lemma added_mapM_cons (a : α) (as : List α) :
    ((a :: as).mapM f).added = (f a).added + (as.mapM f).added := by
  rw [List.mapM_cons]
  rfl

variable (hf : ∀ a ts, R a ts → (f a).added ≤ b → ∃ us, S (f a).value us)

include hf

lemma commas_scoped {as : List α} {ts : List Token} (h : Parser.Commas R as ts)
    (hb : (as.mapM f).added ≤ b) : ∃ us, Parser.Commas S (as.mapM f).value us := by
  induction h with
  | one h =>
    rw [added_mapM_cons] at hb
    obtain ⟨us, hus⟩ := hf _ _ h (Nat.le_of_add_right_le hb)
    exact ⟨us, .one hus⟩
  | more h others ih =>
    rw [added_mapM_cons] at hb
    obtain ⟨us, hus⟩ := hf _ _ h (Nat.le_of_add_right_le hb)
    obtain ⟨vs, hvs⟩ := ih (Nat.le_of_add_left_le hb)
    rw [value_mapM_cons]
    exact ⟨_, .more hus hvs⟩

lemma row_scoped {as : List α} {ts : List Token} (h : Row R as ts) (hb : (as.mapM f).added ≤ b) :
    ∃ us, Row S (as.mapM f).value us := by
  induction h with
  | nil => exact ⟨[], .nil⟩
  | cons h others ih =>
    rw [added_mapM_cons] at hb
    obtain ⟨us, hus⟩ := hf _ _ h (Nat.le_of_add_right_le hb)
    obtain ⟨vs, hvs⟩ := ih (Nat.le_of_add_left_le hb)
    rw [value_mapM_cons]
    exact ⟨_, .cons hus hvs⟩

lemma list_scoped {ks : List Token} {as : List α} {ts : List Token} (h : ListForm ks R as ts)
    (hb : (as.mapM f).added ≤ b) : ∃ us, ListForm ks S (as.mapM f).value us := by
  cases h with
  | nil => exact ⟨[], .nil⟩
  | items h =>
    obtain ⟨us, hus⟩ := commas_scoped hf h hb
    exact ⟨_, .items hus⟩

end Lists

section Pieces

variable (v : View)

@[simp] lemma value_scopePieces_append (ps qs : List Piece) :
    (scopePieces v (ps ++ qs)).value = (scopePieces v ps).value ++ (scopePieces v qs).value := by
  induction ps with
  | nil => rfl
  | cons p ps ih => simp [scopePieces, ih]

@[simp] lemma added_scopePieces_append (ps qs : List Piece) :
    (scopePieces v (ps ++ qs)).added = (scopePieces v ps).added + (scopePieces v qs).added := by
  induction ps with
  | nil => simp [scopePieces]
  | cons p ps ih =>
    simp only [List.cons_append, scopePieces, Counted.added_bind, Counted.added_pure, ih]
    omega

lemma scopePieces_commaPieces (items : List (List Piece)) :
    (scopePieces v (commaPieces items)).value = commaPieces (items.mapM (scopePieces v)).value ∧
      (scopePieces v (commaPieces items)).added = (items.mapM (scopePieces v)).added := by
  unfold commaPieces
  induction items with
  | nil => exact ⟨rfl, rfl⟩
  | cons ps items ih =>
    cases items with
    | nil => simp [separatedBy]
    | cons qs items =>
      obtain ⟨hvalue, hadded⟩ := ih
      constructor
      · simp [separatedBy, scopePieces, scopePiece, hvalue]
      · simp [separatedBy, scopePieces, scopePiece, hadded]

lemma scopePieces_flatten (items : List (List Piece)) :
    (scopePieces v items.flatten).value = (items.mapM (scopePieces v)).value.flatten ∧
      (scopePieces v items.flatten).added = (items.mapM (scopePieces v)).added := by
  induction items with
  | nil => exact ⟨rfl, rfl⟩
  | cons ps items ih => simp [ih.1, ih.2]

lemma scopePieces_exprPieces (es : List Expr) :
    (scopePieces v (exprPieces es)).value = exprPieces (es.mapM (scopeExpr v)).value ∧
      (scopePieces v (exprPieces es)).added = (es.mapM (scopeExpr v)).added := by
  have heach : ((es.map pieceOf).mapM (scopePieces v)).value =
      (es.mapM (scopeExpr v)).value.map pieceOf ∧
        ((es.map pieceOf).mapM (scopePieces v)).added = (es.mapM (scopeExpr v)).added := by
    induction es with
    | nil => exact ⟨rfl, rfl⟩
    | cons e es ih =>
      rw [List.map_cons, value_mapM_cons, value_mapM_cons, added_mapM_cons, added_mapM_cons, ih.1,
        ih.2]
      simp [pieceOf, scopePieces, scopePiece]
  obtain ⟨hvalue, hadded⟩ := scopePieces_commaPieces v (es.map pieceOf)
  exact ⟨hvalue.trans (congrArg commaPieces heach.1), hadded.trans heach.2⟩

def scopeItem : SelectItem → Counted SelectItem
  | .expr e alias? => return .expr (← scopeExpr v e) alias?
  | .wildcard qualifier options => return .wildcard qualifier (← scopePieces v options)

def scopeKey : OrderKey → Counted OrderKey
  | { key, direction, fill } =>
    return { key := ← scopeExpr v key, direction, fill := ← scopePieces v fill }

lemma scopeExprs_eq (es : List Expr) : scopeExprs v es = es.mapM (scopeExpr v) := by
  induction es with
  | nil => rfl
  | cons e es ih => rw [scopeExprs, ih, List.mapM_cons]

lemma scopeItems_eq (items : List SelectItem) : scopeItems v items = items.mapM (scopeItem v) := by
  induction items with
  | nil => rfl
  | cons i items ih => cases i <;> simp [scopeItems, ih, scopeItem]

lemma scopeKeys_eq (keys : List OrderKey) : scopeKeys v keys = keys.mapM (scopeKey v) := by
  induction keys with
  | nil => rfl
  | cons k keys ih =>
    obtain ⟨key, direction, fill⟩ := k
    simp [scopeKeys, ih, scopeKey]

end Pieces

/-- Up to so many added predicates, scoping takes the forms of the one kind to forms of the other,
beginning with the same token. -/
structure ScopedInto (v : View) (b : Nat) (F G : Forms) : Prop where
  expr : ∀ p e ts, F.expr p e ts → (scopeExpr v e).added ≤ b →
    ∃ us, G.expr p (scopeExpr v e).value us ∧ us.head? = ts.head?
  query : ∀ q ts, F.query q ts → (scopeQuery v q).added ≤ b →
    ∃ us, G.query (scopeQuery v q).value us ∧ us.head? = ts.head?

section Exprs

variable {v : View} {d : Dialect} {F G : Forms} {b : Nat} (hFG : ScopedInto v b F G)

include hFG

lemma argument_scoped {ps : List Piece} {ts : List Token} (h : ArgumentForm F ps ts)
    (hb : (scopePieces v ps).added ≤ b) : ∃ us, ArgumentForm G (scopePieces v ps).value us := by
  cases h with
  | all => exact ⟨_, .all⟩
  | expr h =>
    obtain ⟨us, hus, -⟩ := hFG.expr _ _ _ h (by simpa [pieceOf, scopePieces, scopePiece] using hb)
    exact ⟨us, .expr hus⟩

lemma exprs_scoped {es : List Expr} {ts : List Token} (h : Parser.Commas (F.expr 0) es ts)
    (hb : (es.mapM (scopeExpr v)).added ≤ b) :
    ∃ us, Parser.Commas (G.expr 0) (es.mapM (scopeExpr v)).value us := by
  refine commas_scoped (fun e ts he hb => ?_) h hb
  obtain ⟨us, hus, -⟩ := hFG.expr _ _ _ he hb
  exact ⟨us, hus⟩

lemma subject_scoped {ps : List Piece} {ts : List Token} (h : SubjectForm F ps ts)
    (hb : (scopePieces v ps).added ≤ b) : ∃ us, SubjectForm G (scopePieces v ps).value us := by
  cases h with
  | none => exact ⟨_, .none⟩
  | some h unmerged =>
    obtain ⟨us, hus, hhead⟩ := hFG.expr _ _ _ h (by simpa [scopePieces, scopePiece] using hb)
    exact ⟨us, .some hus (by rwa [hhead])⟩

lemma branch_scoped {ps : List Piece} {ts : List Token} (h : BranchForm F ps ts)
    (hb : (scopePieces v ps).added ≤ b) : ∃ us, BranchForm G (scopePieces v ps).value us := by
  cases h with
  | mk tested chosen =>
    simp only [scopePieces, scopePiece, Counted.added_bind, Counted.added_pure] at hb
    obtain ⟨us, hus, -⟩ := hFG.expr _ _ _ tested (by omega)
    obtain ⟨vs, hvs, -⟩ := hFG.expr _ _ _ chosen (by omega)
    exact ⟨_, .mk hus hvs⟩

lemma otherwise_scoped {ps : List Piece} {ts : List Token} (h : OtherwiseForm F ps ts)
    (hb : (scopePieces v ps).added ≤ b) : ∃ us, OtherwiseForm G (scopePieces v ps).value us := by
  cases h with
  | none => exact ⟨_, .none⟩
  | some h =>
    obtain ⟨us, hus, -⟩ := hFG.expr _ _ _ h (by simpa [scopePieces, scopePiece] using hb)
    exact ⟨_, .some hus⟩

lemma operand_scoped {e : Expr} {ts : List Token} (h : OperandForm d F e ts)
    (hb : (scopeExpr v e).added ≤ b) :
    ∃ us, OperandForm d G (scopeExpr v e).value us ∧ us.head? = ts.head? := by
  cases h with
  | name first others => exact ⟨_, .name first others, rfl⟩
  | number numeral => exact ⟨_, .number numeral, rfl⟩
  | string rereads => exact ⟨_, .string rereads, rfl⟩
  | null => exact ⟨_, .null, rfl⟩
  | truth known => exact ⟨_, .truth known, rfl⟩
  | nested inner =>
    obtain ⟨us, hus, -⟩ := hFG.expr _ _ _ inner (by simpa [scopeExpr] using hb)
    exact ⟨_, .nested hus, rfl⟩
  | query inner unwrapped =>
    obtain ⟨us, hus, hhead⟩ := hFG.query _ _ inner
      (by simpa [scopeExpr, scopePieces, scopePiece] using hb)
    exact ⟨_, .query hus (by rwa [hhead]), rfl⟩
  | @«exists» q negated ts inner =>
    obtain ⟨us, hus, -⟩ := hFG.query _ _ inner
      (by simpa [scopeExpr, scopePieces, scopePiece] using hb)
    exact ⟨_, .exists hus, by cases negated <;> rfl⟩
  | @call i n dup items ds ts first others counted arguments =>
    obtain ⟨hvalue, hadded⟩ := scopePieces_commaPieces v items
    have hrest : (scopeExpr v (.call (i :: n)
        (Parser.inPieceParens (.text dup :: commaPieces items)))).added =
          (items.mapM (scopePieces v)).added := by
      simp [scopeExpr, Parser.inPieceParens, text, scopePieces, scopePiece, hadded]
    obtain ⟨us, hus⟩ := commas_scoped (f := scopePieces v)
      (fun _ _ => argument_scoped hFG) arguments (hrest ▸ hb)
    have hscoped : (scopeExpr v (.call (i :: n)
        (Parser.inPieceParens (.text dup :: commaPieces items)))).value =
          .call (i :: n) (Parser.inPieceParens
            (.text dup :: commaPieces (items.mapM (scopePieces v)).value)) := by
      simp [scopeExpr, Parser.inPieceParens, text, scopePieces, scopePiece, hvalue]
    rw [hscoped]
    obtain ⟨vs, hvs⟩ := tokens_name i n
    exact ⟨_, .call first others counted hus, by rw [hvs]; rfl⟩
  | @callEmpty i n first others =>
    exact ⟨_, .callEmpty first others, rfl⟩
  | @choice subject otherwise branches ts us vs compared nonempty tried last =>
    obtain ⟨hvalue, hadded⟩ := scopePieces_flatten v branches
    simp only [scopeExpr, added_scopePieces_append, hadded, Counted.added_bind, Counted.added_pure,
      text, scopePieces, scopePiece] at hb
    obtain ⟨ts', hts⟩ := subject_scoped hFG compared (by omega)
    obtain ⟨us', hus⟩ := row_scoped (f := scopePieces v) (fun _ _ => branch_scoped hFG) tried (by omega)
    obtain ⟨vs', hvs⟩ := otherwise_scoped hFG last (by omega)
    have hfilled : (branches.mapM (scopePieces v)).value ≠ [] := by
      cases branches with
      | nil => exact absurd rfl nonempty
      | cons ps branches =>
        rw [value_mapM_cons]
        exact List.cons_ne_nil _ _
    refine ⟨.keyword "CASE" :: ts' ++ us' ++ vs' ++ [.keyword "END"], ?_, rfl⟩
    have hform := OperandForm.choice (d := d) hts hfilled hus hvs
    simpa [scopeExpr, text, scopePieces, scopePiece, hvalue] using hform

lemma expr_scoped {p : Nat} {e : Expr} {ts : List Token} (h : ExprForm d F p e ts)
    (hb : (scopeExpr v e).added ≤ b) :
    ∃ us, ExprForm d G p (scopeExpr v e).value us ∧ us.head? = ts.head? := by
  induction h with
  | operand h =>
    obtain ⟨us, hus, hhead⟩ := operand_scoped hFG h hb
    exact ⟨us, .operand hus, hhead⟩
  | @not p e ts tighter inner unmerged =>
    obtain ⟨us, hus, hhead⟩ := hFG.expr _ _ _ inner
      (by simpa [scopeExpr, scopePieces, scopePiece] using hb)
    exact ⟨_, .not tighter hus (by rwa [hhead]), rfl⟩
  | @negative p e ts tighter inner unmerged =>
    obtain ⟨us, hus, hhead⟩ := hFG.expr _ _ _ inner
      (by simpa [scopeExpr, scopePieces, scopePiece] using hb)
    exact ⟨_, .negative tighter hus (by rwa [hhead]), rfl⟩
  | @binary p l r op t ts vs operator tighter left right ih =>
    simp only [scopeExpr, Counted.added_bind, Counted.added_pure] at hb
    obtain ⟨us, hus, hhead⟩ := ih (by omega)
    obtain ⟨ws, hws, -⟩ := hFG.expr _ _ _ right (by omega)
    exact ⟨_, .binary operator tighter hus hws, by simp [List.head?_append, hhead]⟩
  | @test p l keys ts known tighter left ih =>
    obtain ⟨us, hus, hhead⟩ := ih (by simpa [scopeExpr, scopePieces, scopePiece] using hb)
    exact ⟨_, .test known tighter hus, by simp [List.head?_append, hhead]⟩
  | @among p l es negated ts vs tighter left items ih =>
    obtain ⟨hvalue, hadded⟩ := scopePieces_exprPieces v es
    simp only [scopeExpr, scopePieces, scopePiece, Parser.inPieceParens, text, List.cons_append,
      List.nil_append, Counted.added_bind, Counted.added_pure, added_scopePieces_append, hadded] at hb
    obtain ⟨us, hus, hhead⟩ := ih (by omega)
    obtain ⟨ws, hws⟩ := exprs_scoped hFG items (by omega)
    refine ⟨us ++ negationTokens negated ++ .keyword "IN" :: .symbol .lParen :: ws
      ++ [Token.symbol .rParen], ?_, by simp [List.head?_append, hhead]⟩
    have hform := @ExprForm.among _ _ _ _ _ negated _ _ tighter hus hws
    simpa [scopeExpr, scopePieces, scopePiece, Parser.inPieceParens, text, hvalue] using hform
  | @isIn p l q negated ts vs tighter left rows unwrapped ih =>
    simp only [scopeExpr, scopePieces, scopePiece, Parser.inPieceParens, text, List.cons_append,
      List.nil_append, Counted.added_bind, Counted.added_pure] at hb
    obtain ⟨us, hus, hhead⟩ := ih (by omega)
    obtain ⟨ws, hws, hfirst⟩ := hFG.query _ _ rows (by omega)
    exact ⟨_, .isIn tighter hus hws (by rwa [hfirst]), by simp [List.head?_append, hhead]⟩
  | @between p l low high negated ts us vs tighter left lower upper ih =>
    simp only [scopeExpr, scopePieces, scopePiece, Counted.added_bind, Counted.added_pure] at hb
    obtain ⟨us, hus, hhead⟩ := ih (by omega)
    obtain ⟨ws, hws, -⟩ := hFG.expr _ _ _ lower (by omega)
    obtain ⟨xs, hxs, -⟩ := hFG.expr _ _ _ upper (by omega)
    exact ⟨_, .between tighter hus hws hxs, by simp [List.head?_append, hhead]⟩
  | @like p l pattern negated ts us tighter left right ih =>
    simp only [scopeExpr, scopePieces, scopePiece, Counted.added_bind, Counted.added_pure] at hb
    obtain ⟨us, hus, hhead⟩ := ih (by omega)
    obtain ⟨ws, hws, -⟩ := hFG.expr _ _ _ right (by omega)
    exact ⟨_, .like tighter hus hws, by simp [List.head?_append, hhead]⟩

end Exprs

section Conditions

variable {d : Dialect}

/-- A test as scoping adds it: of a form that may stand to the right of `AND`. -/
def IsTest (d : Dialect) (e : Expr) : Prop :=
  ∀ p < (Token.symbol .eq).strength d, ∃ us, (Forms.within d 2).expr p e us

lemma isNumeral_spelling (tenant : TenantId) : Lexer.IsNumeral tenant.spelling.toList := by
  have hlist : tenant.spelling.toList = Nat.toDigits 10 tenant.value := Nat.toList_repr
  rw [hlist]
  exact .whole Nat.toDigits_ne_nil (List.all_eq_true.2 fun _ =>
    Nat.isDigit_of_mem_toDigits (by decide) (by decide))

lemma isTest_predicates {v : View} (column : isPlainIdentifier v.policy.tenantColumn = true)
    {i : Ident} {n : Name} {alias? : Option TableAlias} {ts : List Token} (first : IsPlainName d i)
    (others : ∀ j ∈ n, Lexer.RereadsName d j) (named : AliasForm d alias? ts) :
    ∀ e ∈ v.predicates (i :: n) alias?, IsTest d e := by
  have hnumber : (Forms.within d 1).expr ((Token.symbol .eq).strength d)
      (.value v.tenant.spelling) [.number v.tenant.spelling false] :=
    .operand (.number (isNumeral_spelling v.tenant))
  have htest : ∀ (j : Ident) (n : Name), IsPlainName d j → (∀ k ∈ n, Lexer.RereadsName d k) →
      IsTest d (.binary (.name (j :: n ++ [⟨v.policy.tenantColumn, none⟩])) .eq
        (.value v.tenant.spelling)) := by
    intro j n hj hn p hp
    have hcolumn : ∀ k ∈ [(⟨v.policy.tenantColumn, none⟩ : Ident)], Lexer.RereadsName d k :=
      List.forall_mem_singleton.2 column
    exact ⟨_, .binary (by decide) hp
      (.operand (.name hj (List.forall_mem_append.2 ⟨hn, hcolumn⟩))) hnumber⟩
  intro e he
  unfold View.predicates at he
  split at he
  · exact absurd he List.not_mem_nil
  · obtain rfl := List.mem_singleton.1 he
    cases named with
    | none => exact htest i n first others
    | some plain listed => exact htest _ [] plain (List.forall_mem_nil _)

/-- Without an operator as loose as `AND`, every operator of an expression binds tighter. -/
lemma exprForm_tight {F : Forms} {e : Expr} {ts : List Token} (h : ExprForm d F 0 e ts)
    (htight : hasLoose e = false) : ExprForm d F (Level.strength d .and - 1) e ts := by
  cases h with
  | operand h => exact .operand h
  | not tighter inner unmerged => exact .not (by cases d <;> decide) inner unmerged
  | negative tighter inner unmerged => exact .negative (by cases d <;> decide) inner unmerged
  | @binary _ l r op t ts us operator tighter left right =>
    have hop : isLoose op = false := by
      by_contra hloose
      rw [Bool.not_eq_false] at hloose
      simp [hasLoose, Expr.collect, looseOperators, hloose] at htight
    have hstrength : ∀ o ∈ operatorTokens, isLoose o.1 = false →
        Level.strength d .and - 1 < o.2.strength d := by cases d <;> decide
    exact .binary operator (hstrength _ operator hop) left right
  | test known tighter left => exact .test known (by cases d <;> decide) left
  | among tighter left items => exact .among (by cases d <;> decide) left items
  | isIn tighter left rows unwrapped => exact .isIn (by cases d <;> decide) left rows unwrapped
  | between tighter left lower upper => exact .between (by cases d <;> decide) left lower upper
  | like tighter left right => exact .like (by cases d <;> decide) left right

lemma conjoin_form {k : Nat} (hk : 2 ≤ k) {e p : Expr} {ts : List Token}
    (he : (Forms.within d k).expr 0 e ts) (hp : IsTest d p) :
    ∃ us, (Forms.within d (k + 1)).expr 0 (conjoin e p) us := by
  have hgrouped : ∃ us, ExprForm d (Forms.within d k) (Level.strength d .and - 1) (grouped e) us := by
    have hnext := (Forms.within_le_succ d k).expr _ _ _ he
    unfold grouped
    split
    · cases hnext with
      | operand h => exact ⟨_, .operand h⟩
    · split
      · exact ⟨_, .operand (.nested he)⟩
      · next htight => exact ⟨_, exprForm_tight hnext (by simpa using htight)⟩
  obtain ⟨us, hus⟩ := hgrouped
  obtain ⟨vs, hvs⟩ := hp (Level.strength d .and) (by cases d <;> decide)
  exact ⟨_, .binary (t := .keyword "AND") (by decide) (by cases d <;> decide) hus
    ((Forms.within_le hk).expr _ _ _ hvs)⟩

lemma foldl_conjoin_form {preds : List Expr} (hpreds : ∀ p ∈ preds, IsTest d p) {k : Nat}
    (hk : 2 ≤ k) {e : Expr} {ts : List Token} (he : (Forms.within d k).expr 0 e ts) :
    ∃ us, (Forms.within d (k + preds.length)).expr 0 (preds.foldl conjoin e) us := by
  induction preds generalizing k e ts with
  | nil => exact ⟨ts, he⟩
  | cons p preds ih =>
    rw [List.forall_mem_cons] at hpreds
    obtain ⟨us, hus⟩ := conjoin_form hk he hpreds.1
    rw [List.foldl_cons, List.length_cons, Nat.add_comm preds.length, ← Nat.add_assoc]
    exact ih hpreds.2 (Nat.le_succ_of_le hk) hus

lemma extended_form {preds : List Expr} (hpreds : ∀ p ∈ preds, IsTest d p) {k : Nat}
    (hk : 2 ≤ k) {e? : Option Expr} (he : ∀ e ∈ e?, ∃ ts, (Forms.within d k).expr 0 e ts) :
    ∀ e ∈ extended e? preds, ∃ us, (Forms.within d (k + preds.length)).expr 0 e us := by
  have hsome : ∀ (e : Expr) (preds : List Expr),
      extended (some e) preds = some (preds.foldl conjoin e) := by
    intro e preds
    induction preds generalizing e with
    | nil => rfl
    | cons p preds ih => rw [extended, ih, List.foldl_cons]
  cases e? with
  | some e =>
    obtain ⟨ts, hts⟩ := he e rfl
    rw [hsome]
    rintro _ ⟨⟩
    exact foldl_conjoin_form hpreds hk hts
  | none =>
    cases preds with
    | nil => rintro _ ⟨⟩
    | cons p preds =>
      rw [List.forall_mem_cons] at hpreds
      obtain ⟨ts, hts⟩ := hpreds.1 0 (by cases d <;> decide)
      rw [extended, hsome]
      rintro _ ⟨⟩
      obtain ⟨us, hus⟩ := foldl_conjoin_form hpreds.2 hk ((Forms.within_le hk).expr _ _ _ hts)
      rw [List.length_cons, ← Nat.add_assoc]
      exact ⟨us, (Forms.within_le_succ d _).expr _ _ _ hus⟩

end Conditions

section Clauses

variable {v : View} {d : Dialect} {F G : Forms} {b : Nat} (hFG : ScopedInto v b F G)

lemma exists_clauseForm {α : Type} {R : α → List Token → Prop} {a? : Option α}
    (h : ∀ a ∈ a?, ∃ us, R a us) (ks : List Token) : ∃ us, ClauseForm ks R a? us := by
  cases a? with
  | none => exact ⟨_, .none⟩
  | some a =>
    obtain ⟨us, hus⟩ := h a rfl
    exact ⟨_, .some hus⟩

include hFG

lemma option_scoped {ks : List Token} {e? : Option Expr} {ts : List Token}
    (h : ClauseForm ks (F.expr 0) e? ts) (hb : (scopeOption v e?).added ≤ b) :
    ∀ e ∈ (scopeOption v e?).value, ∃ us, G.expr 0 e us := by
  cases h with
  | none => exact nofun
  | some h =>
    obtain ⟨us, hus, -⟩ := hFG.expr _ _ _ h hb
    rintro _ ⟨⟩
    exact ⟨us, hus⟩

lemma item_scoped {i : SelectItem} {ts : List Token} (h : ItemForm d F i ts)
    (hb : (scopeItem v i).added ≤ b) : ∃ us, ItemForm d G (scopeItem v i).value us := by
  have hbare : ∀ e, Parser.isBareFrom e = none →
      Parser.isBareFrom (scopeExpr v e).value = none := by
    intro e he
    cases e with
    | name parts => exact he
    | _ => simp [scopeExpr, Parser.isBareFrom]
  cases h with
  | wildcard => exact ⟨_, .wildcard⟩
  | qualified first others => exact ⟨_, .qualified first others⟩
  | expr h named =>
    obtain ⟨us, hus, -⟩ := hFG.expr _ _ _ h hb
    exact ⟨_, .expr hus (hbare _ named)⟩
  | given h named rereads =>
    obtain ⟨us, hus, -⟩ := hFG.expr _ _ _ h hb
    exact ⟨_, .given hus (hbare _ named) rereads⟩

lemma key_scoped {k : OrderKey} {ts : List Token} (h : KeyForm F k ts)
    (hb : (scopeKey v k).added ≤ b) : ∃ us, KeyForm G (scopeKey v k).value us := by
  cases h with
  | mk h directed =>
    obtain ⟨us, hus, -⟩ := hFG.expr _ _ _ h hb
    exact ⟨_, .mk hus directed⟩

end Clauses

section Tables

variable {v : View} {d : Dialect}

def Yields {α : Type} (d : Dialect) (R : α → List Token → Prop) (m : Counted (α × List Expr)) :
    Prop :=
  (∃ us, R m.value.1 us) ∧ (∀ p ∈ m.value.2, IsTest d p) ∧ m.value.2.length ≤ m.added

/-- What stands within a depth before scoping stands so much deeper after it. Common tables change
the view of what is scoped after them. -/
def Deepens (d : Dialect) (n : Nat) : Prop :=
  ∀ v b, isPlainIdentifier v.policy.tenantColumn = true →
    ScopedInto v b (Forms.within d n) (Forms.within d (n + 2 + b))

variable (column : isPlainIdentifier v.policy.tenantColumn = true)

include column

lemma factor_scoped {F G : Forms} {b : Nat} (hFG : ScopedInto v b F G) (placement : Placement)
    {t : TableFactor} {ts : List Token} (h : FactorForm d F t ts)
    (hb : (scopeFactor v placement t).added ≤ b) :
    Yields d (FactorForm d G) (scopeFactor v placement t) := by
  cases h with
  | @base i n alias? ts first others named =>
    have hvalue : (scopeFactor v placement (.base (i :: n) [] alias? [])).value =
        (.base (i :: n) [] alias? [], v.predicates (i :: n) alias?) := by
      simp [scopeFactor, scopePieces, counted]
    have hadded : (scopeFactor v placement (.base (i :: n) [] alias? [])).added =
        (v.predicates (i :: n) alias?).length := by
      simp [scopeFactor, scopePieces, counted]
    have htests := isTest_predicates column first others named
    rw [Yields, hvalue, hadded]
    dsimp only
    exact ⟨⟨_, .base first others named⟩, htests, Nat.le_refl _⟩
  | @derived lateral q alias? ts us rows named =>
    have hvalue : (scopeFactor v placement (.derived lateral q alias?)).value =
        (.derived lateral (scopeQuery v q).value alias?, []) := by
      rw [scopeFactor]
      rfl
    obtain ⟨us, hus, -⟩ := hFG.query _ _ rows (by simpa [scopeFactor] using hb)
    rw [Yields, hvalue]
    exact ⟨⟨_, .derived hus named⟩, List.forall_mem_nil _, Nat.zero_le _⟩

variable {n b : Nat} (hn : Deepens d n)

include hn

lemma constraint_scoped {c : JoinConstraint} {ts : List Token}
    (h : ConstraintForm d (Forms.within d n) c ts) {preds : List Expr}
    (hpreds : ∀ p ∈ preds, IsTest d p) (placement : Placement)
    (hb : (scopeConstraint v c).added + preds.length ≤ b) :
    (∃ us, ConstraintForm d (Forms.within d (n + 2 + b))
      (placed placement (scopeConstraint v c).value preds).1 us) ∧
      (∀ p ∈ (placed placement (scopeConstraint v c).value preds).2, IsTest d p) ∧
      (placed placement (scopeConstraint v c).value preds).2.length ≤ preds.length := by
  cases h with
  | @on e ts condition =>
    have hadded : (scopeConstraint v (.on e)).added = (scopeExpr v e).added := by
      simp [scopeConstraint]
    have hvalue : (scopeConstraint v (.on e)).value = .on (scopeExpr v e).value := by
      simp [scopeConstraint]
    obtain ⟨us, hus, -⟩ := (hn v _ column).expr _ _ _ condition (Nat.le_refl _)
    rw [hvalue]
    cases placement with
    | joinCondition =>
      obtain ⟨vs, hvs⟩ := foldl_conjoin_form hpreds (by omega) hus
      exact ⟨⟨_, .on ((Forms.within_le (by omega)).expr _ _ _ hvs)⟩, List.forall_mem_nil _,
        Nat.zero_le _⟩
    | statement =>
      exact ⟨⟨_, .on ((Forms.within_le (by omega)).expr _ _ _ hus)⟩, hpreds, Nat.le_refl _⟩
  | @shared columns ts named =>
    have hvalue : (scopeConstraint v (.shared columns)).value = .shared columns := by
      simp [scopeConstraint]
    rw [hvalue]
    cases placement <;> exact ⟨⟨_, .shared named⟩, hpreds, Nat.le_refl _⟩
  | none =>
    have hvalue : (scopeConstraint v .none).value = .none := by simp [scopeConstraint]
    rw [hvalue]
    cases placement <;> exact ⟨⟨_, .none⟩, hpreds, Nat.le_refl _⟩

lemma join_scoped {j : Join} {ts : List Token} (h : JoinForm d (Forms.within d n) j ts)
    (placement : Placement) (js : List Join)
    (hjs : Yields d (Row (JoinForm d (Forms.within d (n + 2 + b)))) (scopeJoins v placement js))
    (hb : (scopeJoins v placement (j :: js)).added ≤ b) :
    Yields d (Row (JoinForm d (Forms.within d (n + 2 + b)))) (scopeJoins v placement (j :: js)) := by
  obtain ⟨⟨vs, hvs⟩, hothers, hlength⟩ := hjs
  -- A join without a condition leaves the predicates of its table to the statement.
  have hunconditioned : ∀ (op : JoinOp) (relation : TableFactor) (c : JoinConstraint) (ts : List Token),
      (scopeConstraint v c).value = c → (scopeConstraint v c).added = 0 →
      (∀ preds, placed placement c preds = (c, preds)) →
      FactorForm d (Forms.within d n) relation ts →
      (∀ t ts, FactorForm d (Forms.within d (n + 2 + b)) t ts →
        ∃ us, JoinForm d (Forms.within d (n + 2 + b)) ⟨false, op, t, none, c⟩ us) →
      (scopeJoins v placement (⟨false, op, relation, none, c⟩ :: js)).added ≤ b →
      Yields d (Row (JoinForm d (Forms.within d (n + 2 + b))))
        (scopeJoins v placement (⟨false, op, relation, none, c⟩ :: js)) := by
    intro op relation c ts hvalue hzero hplaced right hform hb
    have hadded : (scopeJoins v placement (⟨false, op, relation, none, c⟩ :: js)).added =
        (scopeFactor v placement relation).added + (scopeJoins v placement js).added := by
      simp [scopeJoins, scopeOption, hzero]
    rw [hadded] at hb
    obtain ⟨⟨ws, hws⟩, hpreds, hcount⟩ :=
      factor_scoped column (hn v b column) placement right (by omega)
    obtain ⟨xs, hxs⟩ := hform _ _ hws
    rw [Yields, hadded]
    simp only [scopeJoins, scopeOption, Counted.value_bind, Counted.value_pure, hvalue, hplaced,
      ite_self]
    refine ⟨⟨_, .cons hxs hvs⟩, List.forall_mem_append.2 ⟨hpreds, hothers⟩, ?_⟩
    rw [List.length_append]
    omega
  cases h with
  | @constrained op relation constraint ks ts us operator right matched =>
    have hadded : (scopeJoins v placement (⟨false, op, relation, none, constraint⟩ :: js)).added =
        (scopeFactor v placement relation).added + (scopeConstraint v constraint).added
          + (scopeJoins v placement js).added := by
      simp [scopeJoins, scopeOption, Nat.add_assoc]
    rw [hadded] at hb
    obtain ⟨⟨ws, hws⟩, hpreds, hcount⟩ :=
      factor_scoped column (hn v b column) placement right (by omega)
    have hplaced := fun placement => constraint_scoped column hn matched hpreds placement (b := b) (by omega)
    simp only [Yields, scopeJoins, scopeOption, Counted.value_bind, Counted.value_pure,
      Counted.added_bind, Counted.added_pure]
    split
    · obtain ⟨⟨xs, hxs⟩, hleft, hfew⟩ := hplaced placement
      refine ⟨⟨_, .cons (.constrained operator hws hxs) hvs⟩,
        List.forall_mem_append.2 ⟨hleft, hothers⟩, ?_⟩
      rw [List.length_append]
      omega
    · obtain ⟨⟨xs, hxs⟩, -, -⟩ := hplaced .statement
      refine ⟨⟨_, .cons (.constrained operator hws hxs) hvs⟩,
        List.forall_mem_append.2 ⟨hpreds, hothers⟩, ?_⟩
      dsimp only
      rw [List.length_append]
      omega
  | natural operator right =>
    exact hunconditioned _ _ _ _ (by simp [scopeConstraint]) (by simp [scopeConstraint])
      (by cases placement <;> exact fun _ => rfl) right (fun _ _ h => ⟨_, .natural operator h⟩) hb
  | cross operator right =>
    exact hunconditioned _ _ _ _ (by simp [scopeConstraint]) (by simp [scopeConstraint])
      (by cases placement <;> exact fun _ => rfl) right (fun _ _ h => ⟨_, .cross operator h⟩) hb

lemma joins_scoped {js : List Join} {ts : List Token}
    (h : Row (JoinForm d (Forms.within d n)) js ts) (placement : Placement)
    (hb : (scopeJoins v placement js).added ≤ b) :
    Yields d (Row (JoinForm d (Forms.within d (n + 2 + b)))) (scopeJoins v placement js) := by
  induction h with
  | nil =>
    rw [scopeJoins]
    exact ⟨⟨_, .nil⟩, List.forall_mem_nil _, Nat.le_refl _⟩
  | @cons j js ts us h others ih =>
    refine join_scoped column hn h placement js (ih ?_) hb
    obtain ⟨isGlobal, op, relation, matching, constraint⟩ := j
    simp only [scopeJoins, Counted.added_bind, Counted.added_pure] at hb
    omega

lemma table_scoped {t : TableWithJoins} {ts : List Token} (h : TableForm d (Forms.within d n) t ts)
    (placement : Placement) (hb : (scopeTable v placement t).added ≤ b) :
    Yields d (TableForm d (Forms.within d (n + 2 + b))) (scopeTable v placement t) := by
  cases h with
  | mk first others =>
    simp only [Yields, scopeTable, Counted.value_bind, Counted.value_pure, Counted.added_bind,
      Counted.added_pure] at hb ⊢
    obtain ⟨⟨us, hus⟩, hpreds, hcount⟩ := factor_scoped column (hn v b column) placement first (by omega)
    obtain ⟨⟨vs, hvs⟩, hothers, hlength⟩ := joins_scoped (b := b) column hn others placement
      (by omega)
    refine ⟨⟨_, .mk hus hvs⟩, List.forall_mem_append.2 ⟨hpreds, hothers⟩, ?_⟩
    rw [List.length_append]
    omega

lemma lone_scoped {t : TableWithJoins} {ts : List Token} (h : LoneForm d (Forms.within d n) t ts)
    (placement : Placement) (hb : (scopeTable v placement t).added ≤ b) :
    Yields d (LoneForm d (Forms.within d (n + 2 + b))) (scopeTable v placement t) := by
  cases h with
  | mk h =>
    simp only [Yields, scopeTable, scopeJoins, Counted.value_bind, Counted.value_pure,
      Counted.added_bind, Counted.added_pure, List.append_nil, Nat.add_zero] at hb ⊢
    obtain ⟨⟨us, hus⟩, hpreds, hcount⟩ := factor_scoped column (hn v b column) placement h hb
    exact ⟨⟨us, .mk hus⟩, hpreds, hcount⟩

omit column hn in
lemma tables_scoped {R S : TableWithJoins → List Token → Prop} {placement : Placement}
    (heach : ∀ t ts, R t ts → (scopeTable v placement t).added ≤ b →
      Yields d S (scopeTable v placement t)) {tables : List TableWithJoins} {ts : List Token}
    (h : Parser.Commas R tables ts) (hb : (scopeTables v placement tables).added ≤ b) :
    Yields d (Parser.Commas S) (scopeTables v placement tables) := by
  induction h with
  | one h =>
    simp only [Yields, scopeTables, Counted.value_bind, Counted.value_pure, Counted.added_bind,
      Counted.added_pure, List.append_nil, Nat.add_zero] at hb ⊢
    obtain ⟨⟨us, hus⟩, hpreds, hcount⟩ := heach _ _ h hb
    exact ⟨⟨us, .one hus⟩, hpreds, hcount⟩
  | more h others ih =>
    simp only [Yields, scopeTables, Counted.value_bind, Counted.value_pure, Counted.added_bind,
      Counted.added_pure] at hb ih ⊢
    obtain ⟨⟨us, hus⟩, hpreds, hcount⟩ := heach _ _ h (by omega)
    obtain ⟨⟨vs, hvs⟩, hothers, hlength⟩ := ih (by omega)
    refine ⟨⟨_, .more hus hvs⟩, List.forall_mem_append.2 ⟨hpreds, hothers⟩, ?_⟩
    rw [List.length_append]
    omega

end Tables

section Queries

variable {v : View} {d : Dialect} (column : isPlainIdentifier v.policy.tenantColumn = true)
  {n b : Nat} (hn : Deepens d n)

include column hn

lemma condition_scoped {ks : List Token} {e? : Option Expr} {ts : List Token}
    (h : ClauseForm ks ((Forms.within d n).expr 0) e? ts) {tests : List Expr}
    (htests : ∀ p ∈ tests, IsTest d p) (hb : (scopeOption v e?).added + tests.length ≤ b) :
    ∃ us, ClauseForm ks ((Forms.within d (n + 2 + b)).expr 0)
      (extended (scopeOption v e?).value tests) us := by
  have hcondition := option_scoped (hn v _ column) h (Nat.le_refl _)
  refine exists_clauseForm (fun e he => ?_) ks
  obtain ⟨us, hus⟩ := extended_form htests (by omega) hcondition e he
  exact ⟨us, (Forms.within_le (by omega)).expr _ _ _ hus⟩

lemma select_scoped {s : Select} {ts : List Token} (h : SelectForm d (Forms.within d n) s ts)
    (hb : (scopeSelect v s).added ≤ b) :
    ∃ us, SelectForm d (Forms.within d (n + 2 + b)) (scopeSelect v s).value us := by
  cases h with
  | @mk distinct items tables condition having groupBy ds is ts cs gs hs distinguished selected
      source tested grouped kept =>
    simp only [scopeSelect, scopePieces, scopeItems_eq, scopeExprs_eq, Counted.added_bind,
      Counted.added_pure] at hb
    have hdistinct : (scopeDistinct v distinct).value = distinct := by
      cases distinguished <;> simp [scopeDistinct]
    have hsource : ∃ us, ListForm [.keyword "FROM"] (TableForm d (Forms.within d (n + 2 + b)))
        (scopeTables v .joinCondition tables).value.1 us ∧
          (∀ p ∈ (scopeTables v .joinCondition tables).value.2, IsTest d p) ∧
            (scopeTables v .joinCondition tables).value.2.length ≤
              (scopeTables v .joinCondition tables).added := by
      cases source with
      | nil =>
        rw [scopeTables]
        exact ⟨_, .nil, List.forall_mem_nil _, Nat.le_refl _⟩
      | items source =>
        obtain ⟨⟨us, hus⟩, htests⟩ := tables_scoped (b := b)
          (fun _ _ h => table_scoped column hn h .joinCondition) source (by omega)
        exact ⟨_, .items hus, htests⟩
    obtain ⟨us, hus, htests, hcount⟩ := hsource
    obtain ⟨js, hjs⟩ := commas_scoped (f := scopeItem v)
      (fun _ _ => item_scoped (hn v b column)) selected (by omega)
    obtain ⟨ks, hks⟩ := condition_scoped (b := b) column hn tested htests (by omega)
    obtain ⟨ls, hls⟩ := list_scoped (fun _ _ he hb => by
      obtain ⟨us, hus, -⟩ := (hn v b column).expr _ _ _ he hb
      exact ⟨us, hus⟩) grouped (by omega)
    obtain ⟨ms, hms⟩ := exists_clauseForm (option_scoped (hn v b column) kept (by omega))
      [.keyword "HAVING"]
    have hform := SelectForm.mk distinguished hjs hus hks hls hms
    refine ⟨.keyword "SELECT" :: ds ++ js ++ us ++ ks ++ ls ++ ms, ?_⟩
    simpa [scopeSelect, scopePieces, scopeItems_eq, scopeExprs_eq, hdistinct] using hform

omit column hn in
lemma hasTables_scoped (v : View) (body : Body) :
    (scopeBody v body).value.hasTables = body.hasTables := by
  induction body using Body.hasTables.induct with
  | case1 s =>
    have htables : (scopeSelect v s).value.tables.isEmpty = s.tables.isEmpty := by
      obtain ⟨top, topFirst, distinct, items, into, tables, views, condition, groupAll, groupBy,
        groupModifiers, sorting, having, tail⟩ := s
      cases tables <;> simp [scopeSelect, scopeTables]
    simp [scopeBody, Body.hasTables, htables]
  | case2 l op quantifier r ih => simpa [scopeBody, Body.hasTables] using ih
  | case3 body noSelect noSetOp =>
    cases body with
    | select s => exact absurd rfl (noSelect s)
    | setOp l op quantifier r => exact absurd rfl (noSetOp l op quantifier r)
    | _ => simp [scopeBody, Body.hasTables]

lemma body_scoped {p : Nat} {body : Body} {ts : List Token}
    (h : BodyForm d (Forms.within d n) p body ts) (hb : (scopeBody v body).added ≤ b) :
    ∃ us, BodyForm d (Forms.within d (n + 2 + b)) p (scopeBody v body).value us ∧
      us.head? = ts.head? := by
  induction h with
  | @select p s ts h =>
    simp only [scopeBody, Counted.added_bind, Counted.added_pure, Nat.add_zero] at hb
    obtain ⟨us, hus⟩ := select_scoped column hn h hb
    obtain ⟨ts, rfl⟩ := selects_select h
    obtain ⟨us, rfl⟩ := selects_select hus
    exact ⟨_, .select hus, rfl⟩
  | @query p q ts inner =>
    simp only [scopeBody, Counted.added_bind, Counted.added_pure, Nat.add_zero] at hb
    obtain ⟨us, hus, -⟩ := (hn v b column).query _ _ inner hb
    exact ⟨_, .query hus, rfl⟩
  | @setOp p l r op quantifier ts qs us tighter left unmerged quantified right ihl ihr =>
    simp only [scopeBody, Counted.added_bind, Counted.added_pure, Nat.add_zero] at hb
    obtain ⟨vs, hvs, hhead⟩ := ihl (by omega)
    obtain ⟨ws, hws, -⟩ := ihr (by omega)
    exact ⟨_, .setOp tighter hvs (by rwa [hasTables_scoped]) quantified hws, by
      simp [List.head?_append, hhead]⟩

/-- Each common table is scoped in the view that those before it leave. -/
lemma ctes_scoped {ctes : List Cte} {ts : List Token}
    (h : Parser.Commas (CteForm d (Forms.within d n)) ctes ts)
    (hb : (scopeCtes v ctes).added ≤ b) :
    ∃ us, Parser.Commas (CteForm d (Forms.within d (n + 2 + b))) (scopeCtes v ctes).value.1 us ∧
      us.head? = ts.head? := by
  induction h generalizing v with
  | one h =>
    cases h with
    | mk rereads listed computed allowed rows =>
      simp only [scopeCtes, Counted.added_bind, Counted.added_pure, Nat.add_zero] at hb
      obtain ⟨us, hus, -⟩ := (hn v b column).query _ _ rows hb
      exact ⟨_, .one (.mk rereads listed computed allowed hus), rfl⟩
  | more h others ih =>
    cases h with
    | @mk i columns q materialized cs ms ts rereads listed computed allowed rows =>
      simp only [scopeCtes, Counted.added_bind, Counted.added_pure, Nat.add_zero] at hb
      obtain ⟨us, hus, -⟩ := (hn v b column).query _ _ rows (by omega)
      obtain ⟨vs, hvs, -⟩ := ih (v := v.withHidden i) column (by omega)
      exact ⟨_, .more (.mk rereads listed computed allowed hus) hvs, rfl⟩

lemma with_scoped {recursive : Bool} {ctes : List Cte} {ts : List Token}
    (h : WithForm d (Forms.within d n) recursive ctes ts) (hb : (scopeCtes v ctes).added ≤ b) :
    ∃ us, WithForm d (Forms.within d (n + 2 + b)) recursive (scopeCtes v ctes).value.1 us ∧
      us.head? = ts.head? := by
  cases h with
  | none => exact ⟨_, .none, rfl⟩
  | tables h unmerged =>
    obtain ⟨us, hus, hhead⟩ := ctes_scoped column hn h hb
    exact ⟨_, .tables hus (by rwa [hhead]), rfl⟩

lemma query_scoped {q : Query} {ts : List Token} (h : QueryForm d (Forms.within d n) q ts)
    (hb : (scopeQuery v q).added ≤ b) :
    ∃ us, QueryForm d (Forms.within d (n + 2 + b)) (scopeQuery v q).value us ∧
      us.head? = ts.head? := by
  cases h with
  | @mk recursive ctes body orderBy limit tail ws bs os ls fs common rows sorted limited skipped =>
    simp only [scopeQuery, scopePieces, scopeKeys_eq, Counted.added_bind, Counted.added_pure,
      Counted.value_pure] at hb
    have hview : isPlainIdentifier (scopeCtes v ctes).value.2.policy.tenantColumn = true := by
      rwa [(view_scopeCtes v ctes).1]
    obtain ⟨ws', hws, hwith⟩ := with_scoped (b := b) column hn common (by omega)
    obtain ⟨bs', hbs, hbody⟩ := body_scoped (b := b) hview hn rows (by omega)
    obtain ⟨os', hos⟩ := list_scoped (f := scopeKey _) (fun _ _ => key_scoped (hn _ b hview)) sorted
      (by omega)
    obtain ⟨ls', hls⟩ := exists_clauseForm (option_scoped (hn _ b hview) limited (by omega))
      [.keyword "LIMIT"]
    have hoffset : OffsetForm (Forms.within d (n + 2 + b)) tail fs :=
      skipped.mono (Forms.within_le (by omega))
    have hform := QueryForm.mk hws hbs hos hls hoffset
    obtain ⟨t, us, rfl, -⟩ := starts_body rows
    refine ⟨ws' ++ bs' ++ os' ++ ls' ++ fs, ?_, by simp [List.head?_append, hwith, hbody]⟩
    simpa [scopeQuery, scopePieces, scopeKeys_eq] using hform

omit column hn in
/-- Whatever nests within a depth is deepened by two levels and one more for each predicate. -/
lemma deepens_within (n : Nat) : Deepens d n := by
  induction n with
  | zero => exact fun _ _ _ => ⟨nofun, nofun⟩
  | succ n ih =>
    intro v b column
    have hdepth : n + 1 + 2 + b = n + 2 + b + 1 := by omega
    rw [hdepth]
    exact ⟨fun _ _ _ => expr_scoped (ih v b column), fun _ _ => query_scoped column ih⟩

end Queries

section Statements

variable {v : View} {d : Dialect} (column : isPlainIdentifier v.policy.tenantColumn = true)
  {n b : Nat}

include column

lemma assignment_scoped {ps : List Piece} {ts : List Token}
    (h : AssignmentForm d (Forms.within d n) ps ts) (hb : (scopePieces v ps).added ≤ b) :
    ∃ us, AssignmentForm d (Forms.within d (n + 2 + b)) (scopePieces v ps).value us := by
  cases h with
  | mk nonempty target h =>
    obtain ⟨us, hus, -⟩ := (deepens_within n v b column).expr _ _ _ h
      (by simpa [scopePieces, scopePiece] using hb)
    exact ⟨_, .mk nonempty target hus⟩

lemma source_scoped {source? : Option TableWithJoins} {ks ts : List Token}
    (h : ClauseForm ks (TableForm d (Forms.within d n)) source? ts) (placement : Placement)
    (hb : (scopeTableOption v placement source?).added ≤ b) :
    Yields d (ClauseForm ks (TableForm d (Forms.within d (n + 2 + b))))
        (scopeTableOption v placement source?) ∧
      (source? = none → (scopeTableOption v placement source?).value.1 = none) := by
  cases h with
  | none =>
    rw [scopeTableOption]
    exact ⟨⟨⟨_, .none⟩, List.forall_mem_nil _, Nat.le_refl _⟩, fun _ => rfl⟩
  | some h =>
    simp only [Yields, scopeTableOption, Counted.value_bind, Counted.value_pure, Counted.added_bind,
      Counted.added_pure, Nat.add_zero] at hb ⊢
    obtain ⟨⟨us, hus⟩, htests⟩ := table_scoped column (deepens_within n) h placement hb
    exact ⟨⟨⟨_, .some hus⟩, htests⟩, fun hnone => absurd hnone (Option.some_ne_none _)⟩

lemma targets_scoped {targets sources : List TableWithJoins} {ts : List Token}
    (h : TargetsForm d (Forms.within d n) targets sources ts) (placement : Placement)
    (hb : (scopeTables v placement targets).added + (scopeTables v placement sources).added ≤ b) :
    (∃ us, TargetsForm d (Forms.within d (n + 2 + b)) (scopeTables v placement targets).value.1
      (scopeTables v placement sources).value.1 us) ∧
      (∀ p ∈ (scopeTables v placement targets).value.2 ++ (scopeTables v placement sources).value.2,
        IsTest d p) ∧
      ((scopeTables v placement targets).value.2 ++ (scopeTables v placement sources).value.2).length
        ≤ (scopeTables v placement targets).added + (scopeTables v placement sources).added := by
  have hn : Deepens d n := deepens_within n
  cases h with
  | alone h =>
    obtain ⟨⟨us, hus⟩, hpreds, hcount⟩ := tables_scoped (b := b)
      (fun _ _ h => table_scoped column hn h placement) h (by omega)
    have hnone : (scopeTables v placement []).value = ([], []) := by
      rw [scopeTables]
      rfl
    rw [hnone, List.append_nil]
    exact ⟨⟨us, .alone hus⟩, hpreds, Nat.le_add_right_of_le hcount⟩
  | sourced h source =>
    obtain ⟨⟨us, hus⟩, hpreds, hcount⟩ := tables_scoped (b := b)
      (fun _ _ h => lone_scoped column hn h placement) h (by omega)
    obtain ⟨⟨vs, hvs⟩, hothers, hlength⟩ := tables_scoped (b := b)
      (fun _ _ h => table_scoped column hn h placement) source (by omega)
    refine ⟨⟨_, .sourced hus hvs⟩, List.forall_mem_append.2 ⟨hpreds, hothers⟩, ?_⟩
    rw [List.length_append]
    omega

lemma statement_scoped {s : Statement} {ts : List Token}
    (h : StatementForm d (Forms.within d n) s ts) (hb : (scopeStatement v s).added ≤ b) :
    ∃ us, StatementForm d (Forms.within d (n + 2 + b)) (scopeStatement v s).value us := by
  have hn : Deepens d n := deepens_within n
  cases h with
  | query h =>
    obtain ⟨us, hus, -⟩ := (hn v b column).query _ _ h hb
    exact ⟨us, .query hus⟩
  | @update target changes source? condition ts us fs cs table changed source allowed tested =>
    obtain ⟨hvalue, hadded⟩ := scopePieces_commaPieces v changes
    simp only [scopeStatement, scopeUpdate, scopePieces, scopePiece, Counted.added_bind,
      Counted.added_pure, hadded] at hb
    obtain ⟨⟨vs, hvs⟩, htests, hcount⟩ := table_scoped (b := b) column hn table .statement
      (by omega)
    obtain ⟨⟨⟨fs, hfs⟩, hothers, hlength⟩, hnone⟩ :=
      source_scoped (b := b) column source .statement (by omega)
    obtain ⟨ws, hws⟩ := commas_scoped (f := scopePieces v)
      (fun _ _ => assignment_scoped (b := b) column) changed (by omega)
    obtain ⟨xs, hxs⟩ := condition_scoped (b := b) column hn tested
      (List.forall_mem_append.2 ⟨htests, hothers⟩) (by rw [List.length_append]; omega)
    have hform := StatementForm.update hvs hws hfs (fun h => allowed (mt hnone h)) hxs
    refine ⟨.keyword "UPDATE" :: vs ++ .keyword "SET" :: ws ++ fs ++ xs, ?_⟩
    simpa [scopeStatement, scopeUpdate, scopePieces, scopePiece, hvalue] using hform
  | @delete named targets sources condition ns ts cs chosen allowed table tested =>
    simp only [scopeStatement, scopeDelete, Counted.added_bind, Counted.added_pure] at hb
    obtain ⟨⟨vs, hvs⟩, htests, hcount⟩ := targets_scoped (b := b) column table .statement (by omega)
    obtain ⟨xs, hxs⟩ := condition_scoped (b := b) column hn tested htests (by omega)
    have hform := StatementForm.delete chosen allowed hvs hxs
    refine ⟨.keyword "DELETE" :: ns ++ .keyword "FROM" :: vs ++ xs, ?_⟩
    simpa [scopeStatement, scopeDelete] using hform

end Statements

end RowFence.Scope
