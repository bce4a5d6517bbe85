import Mathlib.Data.List.Basic
import Mathlib.Tactic.Lemma
import RowFence.Sql.Printer

/-! How the operators of a text group its operands. The printer puts no parentheses of its own around
the operands of an operator. What it prints is a row of operands with operators between, before and
behind them, and a reader groups it by the precedence that it gives to the operators, which need not
be how the expression was put together. -/

namespace RowFence.Sql

/-- An operator: a sign between two expressions, or the part of a phrase that stands between its outer
expressions. -/
inductive Operator where
  | sign (op : BinaryOp)
  | phrase (pieces : List Piece)

/-- An expression as far as its operators group it. -/
inductive Formula where
  | operand (e : Expr)
  | nested (inner : Formula)
  | between (left : Formula) (op : Operator) (right : Formula)
  | before (op : Operator) (right : Formula)
  | behind (left : Formula) (op : Operator)

/-- The operators whose right operand ends a formula, from the outermost in. -/
def Formula.openOperators : Formula → List Operator
  | .operand _ => []
  | .nested _ => []
  | .between _ op right => op :: right.openOperators
  | .before op right => op :: right.openOperators
  | .behind _ _ => []

/-- The last expression of a phrase if nothing stands behind it, and the pieces before. -/
structure Tail where
  middle : List Piece
  right? : Option Formula

namespace Tail

def cons (p : Piece) (t : Tail) : Tail := ⟨p :: t.middle, t.right?⟩

/-- The formula of a phrase that starts with an expression. -/
def after (t : Tail) (left : Formula) : Formula :=
  match t.right? with
  | some right => .between left (.phrase t.middle) right
  | none => .behind left (.phrase t.middle)

/-- The formula of a phrase that starts otherwise. -/
def alone (t : Tail) (pieces : List Piece) : Formula :=
  match t.right? with
  | some right => .before (.phrase t.middle) right
  | none => .operand (.form pieces)

end Tail

def endsHere : List Piece → Bool
  | [] => true
  | [.text s] => s.isEmpty
  | _ => false

mutual

def Expr.formula : Expr → Formula
  | .name parts => .operand (.name parts)
  | .value s => .operand (.value s)
  | .binary l op r => .between l.formula (.sign op) r.formula
  | .nested e => .nested e.formula
  | .call f rest => .operand (.call f rest)
  | .form pieces => phraseFormula pieces

def pieceFormula? : Piece → Option Formula
  | .text _ => none
  | .expr e => some e.formula
  | .query _ => none
  | .table _ => none

def phraseFormula : List Piece → Formula
  | [] => .operand (.form [])
  | p :: ps =>
    match pieceFormula? p with
    | some left => (phraseTail ps).after left
    | none => ((phraseTail ps).cons p).alone (p :: ps)

def phraseTail : List Piece → Tail
  | [] => ⟨[], none⟩
  | p :: ps =>
    match pieceFormula? p, endsHere ps with
    | some right, true => ⟨[], some right⟩
    | _, _ => (phraseTail ps).cons p

end

section Spelling

def Operator.spelling : Operator → String
  | .sign op => " " ++ op.spelling ++ " "
  | .phrase pieces => spellPieces pieces

def Formula.spelling : Formula → String
  | .operand e => e.spelling
  | .nested inner => "(" ++ inner.spelling ++ ")"
  | .between left op right => left.spelling ++ op.spelling ++ right.spelling
  | .before op right => op.spelling ++ right.spelling
  | .behind left op => left.spelling ++ op.spelling

def Tail.spelling (t : Tail) : String :=
  spellPieces t.middle ++ (t.right?.map Formula.spelling).getD ""

lemma spellPieces_of_endsHere {ps : List Piece} (h : endsHere ps = true) : spellPieces ps = "" := by
  match ps with
  | [] => rfl
  | [.text s] =>
    rw [spellPieces, spellPieces, Piece.spelling, String.append_empty]
    exact String.isEmpty_iff.mp h

lemma Tail.spelling_cons (p : Piece) (t : Tail) : (t.cons p).spelling = p.spelling ++ t.spelling := by
  rw [Tail.spelling, Tail.cons, spellPieces, String.append_assoc, Tail.spelling]

lemma Tail.spelling_after (t : Tail) (left : Formula) :
    (t.after left).spelling = left.spelling ++ t.spelling := by
  obtain ⟨middle, right?⟩ := t
  cases right? <;> simp [Tail.after, Tail.spelling, Formula.spelling, Operator.spelling,
    String.append_assoc]

lemma Tail.spelling_alone (t : Tail) (pieces : List Piece) (h : t.spelling = spellPieces pieces) :
    (t.alone pieces).spelling = spellPieces pieces := by
  obtain ⟨middle, right?⟩ := t
  cases right? with
  | none => simp [Tail.alone, Formula.spelling, Expr.spelling]
  | some right => simpa [Tail.alone, Tail.spelling, Formula.spelling, Operator.spelling] using h

mutual

lemma spelling_formula : (e : Expr) → e.formula.spelling = e.spelling
  | .name _ => rfl
  | .value _ => rfl
  | .binary l op r => by
    rw [Expr.formula, Formula.spelling, Operator.spelling, spelling_formula l, spelling_formula r,
      Expr.spelling]
    simp only [String.append_assoc]
  | .nested e => by rw [Expr.formula, Formula.spelling, spelling_formula e, Expr.spelling]
  | .call _ _ => rfl
  | .form pieces => by rw [Expr.formula, spelling_phraseFormula pieces, Expr.spelling]

lemma spelling_pieceFormula : (p : Piece) → ∀ f ∈ pieceFormula? p, f.spelling = p.spelling
  | .text _ => nofun
  | .expr e => fun f hf => by rw [← Option.some.inj hf, spelling_formula e, Piece.spelling]
  | .query _ => nofun
  | .table _ => nofun

lemma spelling_phraseFormula : (ps : List Piece) → (phraseFormula ps).spelling = spellPieces ps
  | [] => rfl
  | p :: ps => by
    have htail : ((phraseTail ps).cons p).spelling = spellPieces (p :: ps) := by
      rw [Tail.spelling_cons, spelling_phraseTail ps, spellPieces]
    rw [phraseFormula]
    split
    · rename_i left hleft
      rw [Tail.spelling_after, spelling_pieceFormula p left hleft, spelling_phraseTail ps, spellPieces]
    · exact Tail.spelling_alone _ _ htail

lemma spelling_phraseTail : (ps : List Piece) → (phraseTail ps).spelling = spellPieces ps
  | [] => rfl
  | p :: ps => by
    rw [phraseTail, spellPieces]
    split
    · rename_i right hright hends
      rw [spellPieces_of_endsHere hends, String.append_empty, ← spelling_pieceFormula p right hright]
      exact String.empty_append
    · rw [Tail.spelling_cons, spelling_phraseTail ps]

end

/-- What a formula is printed as: operators between operands that hold together. -/
inductive RowItem where
  | operand (text : String)
  | operator (op : Operator)

def RowItem.spelling : RowItem → String
  | .operand text => text
  | .operator op => op.spelling

/-- Parentheses make an operand of what is in them. -/
def Formula.row : Formula → List RowItem
  | .operand e => [.operand e.spelling]
  | .nested inner => [.operand ("(" ++ inner.spelling ++ ")")]
  | .between left op right => left.row ++ .operator op :: right.row
  | .before op right => .operator op :: right.row
  | .behind left op => left.row ++ [.operator op]

lemma join_row (f : Formula) : String.join (f.row.map RowItem.spelling) = f.spelling := by
  induction f with
  | operand e => simp [Formula.row, RowItem.spelling, Formula.spelling]
  | nested inner => simp [Formula.row, RowItem.spelling, Formula.spelling]
  | between left op right ihl ihr =>
    simp [Formula.row, RowItem.spelling, Formula.spelling, ihl, ihr, String.append_assoc]
  | before op right ih => simp [Formula.row, RowItem.spelling, Formula.spelling, ih]
  | behind left op ih => simp [Formula.row, RowItem.spelling, Formula.spelling, ih]

lemma operator_mem_row {f : Formula} {op : Operator} (h : op ∈ f.openOperators) :
    .operator op ∈ f.row := by
  induction f with
  | operand e => cases h
  | nested inner => cases h
  | between left o right _ ih =>
    rcases List.mem_cons.mp h with rfl | hright
    · exact List.mem_append_right _ List.mem_cons_self
    · exact List.mem_append_right _ (List.mem_cons_of_mem _ (ih hright))
  | before o right ih =>
    rcases List.mem_cons.mp h with rfl | hright
    · exact List.mem_cons_self
    · exact List.mem_cons_of_mem _ (ih hright)
  | behind left o => cases h

end Spelling

end RowFence.Sql
