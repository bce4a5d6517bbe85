import RowFence.Proofs.Sql.Forms

/-! Forms within a depth are forms within every greater depth. -/

namespace RowFence.Sql

section Lists

variable {α : Type} {R S : α → List Token → Prop} (hRS : ∀ a ts, R a ts → S a ts)

include hRS

lemma Parser.Commas.imp {as : List α} {ts : List Token} (h : Commas R as ts) : Commas S as ts := by
  induction h with
  | one h => exact .one (hRS _ _ h)
  | more h others ih => exact .more (hRS _ _ h) ih

lemma Row.imp {as : List α} {ts : List Token} (h : Row R as ts) : Row S as ts := by
  induction h with
  | nil => exact .nil
  | cons h others ih => exact .cons (hRS _ _ h) ih

lemma ClauseForm.imp {ks ts : List Token} {a? : Option α} (h : ClauseForm ks R a? ts) :
    ClauseForm ks S a? ts := by
  cases h with
  | none => exact .none
  | some h => exact .some (hRS _ _ h)

lemma ListForm.imp {ks ts : List Token} {as : List α} (h : ListForm ks R as ts) :
    ListForm ks S as ts := by
  cases h with
  | nil => exact .nil
  | items h => exact .items (h.imp hRS)

end Lists

namespace Forms

/-- Every form of the one is a form of the other. -/
structure Le (F G : Forms) : Prop where
  expr : ∀ p e ts, F.expr p e ts → G.expr p e ts
  query : ∀ q ts, F.query q ts → G.query q ts

end Forms

section Mono

variable {d : Dialect} {F G : Forms} (hFG : F.Le G)

include hFG

lemma ArgumentForm.mono {ps : List Piece} {ts : List Token} (h : ArgumentForm F ps ts) :
    ArgumentForm G ps ts := by
  cases h with
  | all => exact .all
  | expr h => exact .expr (hFG.expr _ _ _ h)

lemma SubjectForm.mono {ps : List Piece} {ts : List Token} (h : SubjectForm F ps ts) :
    SubjectForm G ps ts := by
  cases h with
  | none => exact .none
  | some h unmerged => exact .some (hFG.expr _ _ _ h) unmerged

lemma BranchForm.mono {ps : List Piece} {ts : List Token} (h : BranchForm F ps ts) :
    BranchForm G ps ts := by
  cases h with
  | mk tested chosen => exact .mk (hFG.expr _ _ _ tested) (hFG.expr _ _ _ chosen)

lemma OtherwiseForm.mono {ps : List Piece} {ts : List Token} (h : OtherwiseForm F ps ts) :
    OtherwiseForm G ps ts := by
  cases h with
  | none => exact .none
  | some h => exact .some (hFG.expr _ _ _ h)

lemma OperandForm.mono {e : Expr} {ts : List Token} (h : OperandForm d F e ts) :
    OperandForm d G e ts := by
  cases h with
  | name first others => exact .name first others
  | number numeral => exact .number numeral
  | string rereads => exact .string rereads
  | null => exact .null
  | truth known => exact .truth known
  | nested inner => exact .nested (hFG.expr _ _ _ inner)
  | query inner unwrapped => exact .query (hFG.query _ _ inner) unwrapped
  | «exists» inner => exact .exists (hFG.query _ _ inner)
  | call first others counted arguments =>
    exact .call first others counted (arguments.imp fun _ _ => ArgumentForm.mono hFG)
  | callEmpty first others => exact .callEmpty first others
  | choice compared nonempty tried last =>
    exact .choice (compared.mono hFG) nonempty (tried.imp fun _ _ => BranchForm.mono hFG)
      (last.mono hFG)

lemma ExprForm.mono {p : Nat} {e : Expr} {ts : List Token} (h : ExprForm d F p e ts) :
    ExprForm d G p e ts := by
  induction h with
  | operand h => exact .operand (h.mono hFG)
  | not tighter inner unmerged => exact .not tighter (hFG.expr _ _ _ inner) unmerged
  | negative tighter inner unmerged => exact .negative tighter (hFG.expr _ _ _ inner) unmerged
  | binary operator tighter left right ih =>
    exact .binary operator tighter ih (hFG.expr _ _ _ right)
  | test known tighter left ih => exact .test known tighter ih
  | among tighter left items ih => exact .among tighter ih (items.imp (hFG.expr 0))
  | isIn tighter left rows unwrapped ih => exact .isIn tighter ih (hFG.query _ _ rows) unwrapped
  | between tighter left lower upper ih =>
    exact .between tighter ih (hFG.expr _ _ _ lower) (hFG.expr _ _ _ upper)
  | like tighter left right ih => exact .like tighter ih (hFG.expr _ _ _ right)

lemma FactorForm.mono {t : TableFactor} {ts : List Token} (h : FactorForm d F t ts) :
    FactorForm d G t ts := by
  cases h with
  | base first others named => exact .base first others named
  | derived rows named => exact .derived (hFG.query _ _ rows) named

lemma ConstraintForm.mono {c : JoinConstraint} {ts : List Token} (h : ConstraintForm d F c ts) :
    ConstraintForm d G c ts := by
  cases h with
  | on condition => exact .on (hFG.expr _ _ _ condition)
  | shared named => exact .shared named
  | none => exact .none

lemma JoinForm.mono {j : Join} {ts : List Token} (h : JoinForm d F j ts) : JoinForm d G j ts := by
  cases h with
  | constrained operator right matched =>
    exact .constrained operator (right.mono hFG) (matched.mono hFG)
  | natural operator right => exact .natural operator (right.mono hFG)
  | cross operator right => exact .cross operator (right.mono hFG)

lemma TableForm.mono {t : TableWithJoins} {ts : List Token} (h : TableForm d F t ts) :
    TableForm d G t ts := by
  cases h with
  | mk first others => exact .mk (first.mono hFG) (others.imp fun _ _ => JoinForm.mono hFG)

lemma ItemForm.mono {i : SelectItem} {ts : List Token} (h : ItemForm d F i ts) :
    ItemForm d G i ts := by
  cases h with
  | wildcard => exact .wildcard
  | qualified first others => exact .qualified first others
  | expr h named => exact .expr (hFG.expr _ _ _ h) named
  | given h named rereads => exact .given (hFG.expr _ _ _ h) named rereads

lemma SelectForm.mono {s : Select} {ts : List Token} (h : SelectForm d F s ts) :
    SelectForm d G s ts := by
  cases h with
  | mk distinguished selected source tested grouped kept =>
    exact .mk distinguished (selected.imp fun _ _ => ItemForm.mono hFG)
      (source.imp fun _ _ => TableForm.mono hFG) (tested.imp (hFG.expr 0))
      (grouped.imp (hFG.expr 0)) (kept.imp (hFG.expr 0))

lemma KeyForm.mono {k : OrderKey} {ts : List Token} (h : KeyForm F k ts) : KeyForm G k ts := by
  cases h with
  | mk h directed => exact .mk (hFG.expr _ _ _ h) directed

lemma BodyForm.mono {p : Nat} {b : Body} {ts : List Token} (h : BodyForm d F p b ts) :
    BodyForm d G p b ts := by
  induction h with
  | select h => exact .select (h.mono hFG)
  | query inner => exact .query (hFG.query _ _ inner)
  | setOp tighter left unmerged quantified right ihl ihr =>
    exact .setOp tighter ihl unmerged quantified ihr

lemma CteForm.mono {c : Cte} {ts : List Token} (h : CteForm d F c ts) : CteForm d G c ts := by
  cases h with
  | mk rereads listed computed allowed rows =>
    exact .mk rereads listed computed allowed (hFG.query _ _ rows)

lemma WithForm.mono {recursive : Bool} {ctes : List Cte} {ts : List Token}
    (h : WithForm d F recursive ctes ts) : WithForm d G recursive ctes ts := by
  cases h with
  | none => exact .none
  | tables h unmerged => exact .tables (h.imp fun _ _ => CteForm.mono hFG) unmerged

lemma OffsetForm.mono {tail : List Piece} {ts : List Token} (h : OffsetForm F tail ts) :
    OffsetForm G tail ts := by
  cases h with
  | none => exact .none
  | some h counted => exact .some (hFG.expr _ _ _ h) counted

lemma QueryForm.mono {q : Query} {ts : List Token} (h : QueryForm d F q ts) :
    QueryForm d G q ts := by
  cases h with
  | mk common rows sorted limited skipped =>
    exact .mk (common.mono hFG) (rows.mono hFG) (sorted.imp fun _ _ => KeyForm.mono hFG)
      (limited.imp (hFG.expr 0)) (skipped.mono hFG)

end Mono

namespace Forms

variable {d : Dialect} {F G : Forms}

lemma Le.next (h : F.Le G) : (F.next d).Le (G.next d) :=
  ⟨fun _ _ _ => ExprForm.mono h, fun _ _ => QueryForm.mono h⟩

lemma within_le_succ (d : Dialect) : (depth : Nat) → (within d depth).Le (within d (depth + 1))
  | 0 => ⟨nofun, nofun⟩
  | depth + 1 => (within_le_succ d depth).next

lemma within_le {m n : Nat} (h : m ≤ n) : (within d m).Le (within d n) := by
  induction h with
  | refl => exact ⟨fun _ _ _ h => h, fun _ _ h => h⟩
  | @step n h ih =>
    have hsucc := within_le_succ d n
    exact ⟨fun p e ts he => hsucc.expr p e ts (ih.expr p e ts he),
      fun q ts hq => hsucc.query q ts (ih.query q ts hq)⟩

end Forms

end RowFence.Sql
