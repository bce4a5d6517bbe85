import RowFence.Proofs.Sql.DialectPrecedence
import RowFence.Proofs.Sql.Forms

/-! The forms of expressions that the parser reads back are grouped by the precedence of the dialect as
the parser groups them. -/

namespace RowFence.Sql

/-- An expression whose text is read as the expression itself, with operators that all bind tighter
than a strength. -/
structure Regroups (P : Precedence) (strength : Nat) (e : Expr) : Prop where
  read : P.read e = e.formula
  tighter : ∀ c ∈ (P.sequence e.formula).rest, strength < P.strength c.op
  closed : ∀ o ∈ e.formula.openOperators, strength < P.reach o

namespace Regroups

variable {P : Precedence} {p : Nat} {e l r : Expr} {op : Operator}

lemma operand {x : Expr} (he : e.formula = .operand x) : Regroups P p e := by
  refine ⟨?_, ?_, ?_⟩
  · rw [Precedence.read, he]
    rfl
  · rw [he]
    exact List.forall_mem_nil _
  · rw [he]
    exact List.forall_mem_nil _

lemma nested (h : Regroups P p e) {q : Nat} : Regroups P q (.nested e) :=
  ⟨congrArg Formula.nested h.read, List.forall_mem_nil _, List.forall_mem_nil _⟩

lemma closed_of_lt (h : Regroups P (P.strength op - 1) l) : P.Closed op (P.read l) := by
  rw [h.read]
  intro o ho
  have hlt := h.closed o ho
  omega

lemma between (he : e.formula = .between l.formula op r.formula) (hp : p < P.strength op)
    (hop : P.reach op = P.strength op) (hl : Regroups P (P.strength op - 1) l)
    (hr : Regroups P (P.strength op) r) : Regroups P p e := by
  refine ⟨?_, ?_, ?_⟩
  · have hright : ∀ c ∈ (P.sequence r.formula).rest, P.reach op < P.strength c.op := by
      rw [hop]
      exact hr.tighter
    rw [Precedence.read, he, Precedence.regrouped_between hl.closed_of_lt hright]
    exact congrArg₂ (Formula.between · op ·) hl.read hr.read
  · rw [he, Precedence.sequence]
    refine List.forall_mem_append.mpr ⟨fun c hc => ?_, List.forall_mem_cons.mpr ⟨hp, fun c hc => ?_⟩⟩
    · have hlt := hl.tighter c hc
      omega
    · exact Nat.lt_trans hp (hr.tighter c hc)
  · rw [he, Formula.openOperators, List.forall_mem_cons, hop]
    exact ⟨hp, fun o ho => Nat.lt_trans hp (hr.closed o ho)⟩

lemma before (he : e.formula = .before op r.formula) (hp : p < P.strength op)
    (hop : P.reach op = P.strength op) (hr : Regroups P (P.strength op) r) : Regroups P p e := by
  refine ⟨?_, ?_, ?_⟩
  · have hright : ∀ c ∈ (P.sequence r.formula).rest, P.reach op < P.strength c.op := by
      rw [hop]
      exact hr.tighter
    rw [Precedence.read, he, Precedence.regrouped_before hright]
    exact congrArg (Formula.before op) hr.read
  · rw [he, Precedence.sequence]
    exact fun c hc => Nat.lt_trans hp (hr.tighter c hc)
  · rw [he, Formula.openOperators, List.forall_mem_cons, hop]
    exact ⟨hp, fun o ho => Nat.lt_trans hp (hr.closed o ho)⟩

lemma behind (he : e.formula = .behind l.formula op) (hp : p < P.strength op)
    (hl : Regroups P (P.strength op - 1) l) : Regroups P p e := by
  refine ⟨?_, ?_, ?_⟩
  · rw [Precedence.read, he, Precedence.regrouped_behind hl.closed_of_lt]
    exact congrArg (Formula.behind · op) hl.read
  · rw [he, Precedence.sequence]
    refine List.forall_mem_append.mpr ⟨fun c hc => ?_, List.forall_mem_singleton.mpr hp⟩
    have hlt := hl.tighter c hc
    omega
  · rw [he]
    exact List.forall_mem_nil _

end Regroups

section Forms

variable {d : Dialect}

/-- The level of a phrase is told by its first words. -/
lemma ofDialect_phrase {s : String} (words : List String) {l : Level}
    (hwords : phraseWords [.text s] = words) (hgreedy : words ∉ Operator.greedyPhrases)
    (hlevel : lookUp (Level.phraseLevels d) words = some l) (ps : List Piece) :
    (Precedence.ofDialect d).strength (.phrase (.text s :: ps)) = Level.strength d l ∧
      (Precedence.ofDialect d).reach (.phrase (.text s :: ps)) =
        (Precedence.ofDialect d).strength (.phrase (.text s :: ps)) := by
  have hfound : Level.ofPhrase d (.text s :: ps) = l := by
    change (lookUp (Level.phraseLevels d) (phraseWords [.text s])).getD .doubleColon = l
    rw [hwords, hlevel, Option.getD_some]
  refine ⟨congrArg (Level.strength d) hfound, if_neg ?_⟩
  change ¬ Operator.greedyPhrases.contains (phraseWords [.text s]) = true
  rwa [hwords, List.contains_iff_mem]

lemma ofDialect_sign {op : BinaryOp} {t : Token} (h : (op, t) ∈ operatorTokens) :
    (Precedence.ofDialect d).strength (.sign op) = t.strength d ∧
      (Precedence.ofDialect d).reach (.sign op) = (Precedence.ofDialect d).strength (.sign op) := by
  have htable : ∀ entry ∈ operatorTokens,
      (Precedence.ofDialect d).strength (.sign entry.1) = entry.2.strength d ∧
        (Precedence.ofDialect d).reach (.sign entry.1) =
          (Precedence.ofDialect d).strength (.sign entry.1) := by
    cases d <;> decide +kernel
  exact htable _ h

lemma endsHere_concat_text (ps : List Piece) {s : String} (h : s.isEmpty = false) :
    endsHere (ps ++ [Piece.text s]) = false := by
  match ps with
  | [] => exact h
  | [p] => cases p <;> rfl
  | p :: _ :: _ => cases p <;> rfl

/-- A phrase that a text ends has nothing open at its end. -/
lemma phraseTail_concat_text (ps : List Piece) {s : String} (h : s.isEmpty = false) :
    phraseTail (ps ++ [Piece.text s]) = ⟨ps ++ [.text s], none⟩ := by
  induction ps with
  | nil => rfl
  | cons p ps ih =>
    rw [List.cons_append, phraseTail, endsHere_concat_text ps h, ih]
    cases pieceFormula? p <;> rfl

lemma formula_inParens (l : Expr) (s : String) (items : List Piece) :
    (Expr.form ([.expr l, .text s] ++ Parser.inPieceParens items)).formula =
      .behind l.formula (.phrase (.text s :: Parser.inPieceParens items)) := by
  have htail := phraseTail_concat_text (.text s :: .text "(" :: items) (s := ")") (by decide)
  rw [Expr.formula]
  exact congrArg (Tail.after · l.formula) htail

lemma formula_choice (subject : List Piece) (branches : List (List Piece)) (otherwise : List Piece) :
    (Expr.form (text "CASE" ++ subject ++ branches.flatten ++ otherwise ++ text " END")).formula =
      .operand (.form (text "CASE" ++ subject ++ branches.flatten ++ otherwise ++ text " END")) := by
  have htail := phraseTail_concat_text (subject ++ branches.flatten ++ otherwise) (s := " END")
    (by decide)
  simp only [text, List.append_assoc, List.cons_append, List.nil_append] at htail ⊢
  rw [Expr.formula, phraseFormula, htail]
  rfl

lemma regroups_of_operandForm {F : Forms} {e : Expr} {ts : List Token} (h : OperandForm d F e ts)
    (hF : ∀ e ts, F.expr 0 e ts → Regroups (.ofDialect d) 0 e) (p : Nat) :
    Regroups (.ofDialect d) p e := by
  cases h with
  | name => exact .operand rfl
  | number => exact .operand rfl
  | string => exact .operand rfl
  | null => exact .operand rfl
  | truth => exact .operand rfl
  | nested inner => exact (hF _ _ inner).nested
  | query => exact .operand rfl
  | «exists» => exact .operand rfl
  | call => exact .operand rfl
  | callEmpty => exact .operand rfl
  | @choice subject otherwise branches => exact .operand (formula_choice subject branches otherwise)

lemma ofDialect_isTest {keys : List String} (known : keys ∈ Parser.isTests) (ps : List Piece) :
    let op : Operator := .phrase (.text (" IS " ++ " ".intercalate keys) :: ps)
    (Precedence.ofDialect d).strength op = Level.strength d .is ∧
      (Precedence.ofDialect d).reach op = (Precedence.ofDialect d).strength op := by
  have htable : ∀ keys ∈ Parser.isTests,
      phraseWords [.text (" IS " ++ " ".intercalate keys)] = "IS" :: keys ∧
        "IS" :: keys ∉ Operator.greedyPhrases := by decide +kernel
  obtain ⟨hwords, hgreedy⟩ := htable keys known
  exact ofDialect_phrase _ hwords hgreedy rfl ps

def negatablePhrases : List (String × Level) :=
  [("IN", .between), ("BETWEEN", .between), ("LIKE", .like)]

lemma ofDialect_negatable (key : String) {s : String} {l : Level} (known : (key, l) ∈ negatablePhrases)
    (negated : Bool) (hs : s = " " ++ negationText negated ++ key ++ " ") (ps : List Piece) :
    (Precedence.ofDialect d).strength (.phrase (.text s :: ps)) = Level.strength d l ∧
      (Precedence.ofDialect d).reach (.phrase (.text s :: ps)) =
        (Precedence.ofDialect d).strength (.phrase (.text s :: ps)) := by
  have htable : ∀ entry ∈ negatablePhrases, ∀ negated,
      let words := phraseWords [.text (" " ++ negationText negated ++ entry.1 ++ " ")]
      words ∉ Operator.greedyPhrases ∧ lookUp (Level.phraseLevels d) words = some entry.2 := by
    cases d <;> decide +kernel
  obtain ⟨hgreedy, hlevel⟩ := htable _ known negated
  rw [hs]
  exact ofDialect_phrase _ rfl hgreedy hlevel ps

lemma regroups_of_exprForm {F : Forms} {p : Nat} {e : Expr} {ts : List Token}
    (h : ExprForm d F p e ts) (hF : ∀ p e ts, F.expr p e ts → Regroups (.ofDialect d) p e) :
    Regroups (.ofDialect d) p e := by
  induction h with
  | operand h => exact regroups_of_operandForm h (hF 0) _
  | not tighter inner unmerged =>
    obtain ⟨hstrength, hreach⟩ := ofDialect_phrase (d := d) (s := "NOT ") ["NOT"]
      (l := .not) (by decide) (by decide) (by cases d <;> decide) []
    rw [← hstrength] at tighter inner
    exact .before rfl tighter hreach (hF _ _ _ inner)
  | negative tighter inner unmerged =>
    obtain ⟨hstrength, hreach⟩ := ofDialect_phrase (d := d) (s := "-") ["-"]
      (l := .multiply) (by decide) (by decide) (by cases d <;> decide) []
    rw [← hstrength] at tighter inner
    exact .before rfl tighter hreach (hF _ _ _ inner)
  | binary operator tighter left right ih =>
    obtain ⟨hstrength, hreach⟩ := ofDialect_sign (d := d) operator
    rw [← hstrength] at tighter ih right
    exact .between rfl tighter hreach ih (hF _ _ _ right)
  | test known tighter left ih =>
    obtain ⟨hstrength, -⟩ := ofDialect_isTest (d := d) known []
    rw [← hstrength] at tighter ih
    exact .behind rfl tighter ih
  | @among p l es negated ts us tighter left items ih =>
    obtain ⟨hstrength, -⟩ := ofDialect_negatable "IN" (d := d) (l := .between)
      (s := " " ++ negationText negated ++ "IN ") (by decide) negated (by cases negated <;> rfl)
      (Parser.inPieceParens (exprPieces es))
    rw [← hstrength] at tighter ih
    exact .behind (formula_inParens l _ _) tighter ih
  | @isIn p l q negated ts us tighter left rows unwrapped ih =>
    obtain ⟨hstrength, -⟩ := ofDialect_negatable "IN" (d := d) (l := .between)
      (s := " " ++ negationText negated ++ "IN ") (by decide) negated (by cases negated <;> rfl)
      (Parser.inPieceParens [.query q])
    rw [← hstrength] at tighter ih
    exact .behind (formula_inParens l _ _) tighter ih
  | @between p l low high negated ts us vs tighter left lower upper ih =>
    obtain ⟨hstrength, hreach⟩ := ofDialect_negatable "BETWEEN" (d := d) (l := .between)
      (s := " " ++ negationText negated ++ "BETWEEN ") (by decide) negated
      (by cases negated <;> rfl) [.expr low, .text " AND "]
    rw [← hstrength] at tighter ih upper
    exact .between rfl tighter hreach ih (hF _ _ _ upper)
  | @like p l pattern negated ts us tighter left right ih =>
    obtain ⟨hstrength, hreach⟩ := ofDialect_negatable "LIKE" (d := d) (l := .like)
      (s := " " ++ (negationText negated ++ "LIKE") ++ " " ++ "") (by decide) negated
      (by cases negated <;> rfl) []
    rw [← hstrength] at tighter ih right
    exact .between rfl tighter hreach ih (hF _ _ _ right)

lemma regroups_of_form (k : Nat) {p : Nat} {e : Expr} {ts : List Token}
    (h : (Forms.within d k).expr p e ts) : Regroups (.ofDialect d) p e := by
  induction k generalizing p e ts with
  | zero => exact h.elim
  | succ k ih => exact regroups_of_exprForm h fun _ _ _ => ih

/-- What the parser reads back is grouped as it is read. -/
lemma read_of_form {k p : Nat} {e : Expr} {ts : List Token} (h : (Forms.within d k).expr p e ts) :
    (Precedence.ofDialect d).read e = e.formula :=
  (regroups_of_form k h).read

end Forms

end RowFence.Sql
