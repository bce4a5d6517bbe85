import Mathlib.Data.List.Basic
import RowFence.Proofs.Sql.Formula

/-! Reading a row of operands and operators by precedence. Each operator takes for its left operand as
much of what is read before it as binds tighter. -/

namespace RowFence.Sql

/-- An operator behind an expression, with its right operand if it has one. -/
inductive Continuation where
  | between (op : Operator) (right : Formula)
  | behind (op : Operator)

namespace Continuation

def op : Continuation → Operator
  | .between op _ => op
  | .behind op => op

def after (left : Formula) : Continuation → Formula
  | .between op right => .between left op right
  | .behind op => .behind left op

def row : Continuation → List RowItem
  | .between op right => .operator op :: right.row
  | .behind op => [.operator op]

end Continuation

/-- An operand with the operators before it, and what follows. -/
structure Sequence where
  first : Formula
  rest : List Continuation

def Sequence.row (s : Sequence) : List RowItem := s.first.row ++ s.rest.flatMap Continuation.row

/-- How tightly an operator binds what stands before it. Its right operand takes in all operators that
bind tighter than its reach. -/
structure Precedence where
  strength : Operator → Nat
  reach : Operator → Nat

namespace Precedence

variable (P : Precedence)

/-- A right operand that is continued, if there is room for that inside it or next to its operator. -/
def continued? (c : Continuation) (op : Operator) (right : Formula) (inner? : Option Formula) :
    Option Formula :=
  match inner? with
  | some inner => some inner
  | none => if P.reach op < P.strength c.op then some (c.after right) else none

/-- A formula that is continued inside its right operand, as deep as the operators there let it. -/
def inside? (c : Continuation) : Formula → Option Formula
  | .operand _ => none
  | .nested _ => none
  | .between left op right => (P.continued? c op right (inside? c right)).map (.between left op)
  | .before op right => (P.continued? c op right (inside? c right)).map (.before op)
  | .behind _ _ => none

def extend (f : Formula) (c : Continuation) : Formula := (P.inside? c f).getD (c.after f)

def grouped (s : Sequence) : Formula := s.rest.foldl P.extend s.first

/-- The row of operands and operators of a formula. What stands in parentheses is read by itself. -/
def sequence : Formula → Sequence
  | .operand e => ⟨.operand e, []⟩
  | .nested inner => ⟨.nested (P.grouped (sequence inner)), []⟩
  | .between left op right =>
    ⟨(sequence left).first,
      (sequence left).rest ++ .between op (sequence right).first :: (sequence right).rest⟩
  | .before op right => ⟨.before op (sequence right).first, (sequence right).rest⟩
  | .behind left op => ⟨(sequence left).first, (sequence left).rest ++ [.behind op]⟩

def regrouped (f : Formula) : Formula := P.grouped (P.sequence f)

/-- How the text of an expression is read. -/
def read (e : Expr) : Formula := P.regrouped e.formula

end Precedence

namespace Precedence

section Rows

variable (P : Precedence)

lemma row_after (f : Formula) (c : Continuation) : (c.after f).row = f.row ++ c.row := by
  cases c <;> rfl

lemma row_continued {c : Continuation} {op : Operator} {right f : Formula} {inner? : Option Formula}
    (hinner : ∀ g ∈ inner?, g.row = right.row ++ c.row)
    (hf : P.continued? c op right inner? = some f) : f.row = right.row ++ c.row := by
  unfold continued? at hf
  split at hf
  · exact hinner f hf
  · split at hf
    · rw [← Option.some.inj hf, row_after]
    · cases hf

lemma row_inside {c : Continuation} {f g : Formula} (hg : P.inside? c f = some g) :
    g.row = f.row ++ c.row := by
  induction f generalizing g with
  | operand e => cases hg
  | nested inner => cases hg
  | between left op right _ ih =>
    obtain ⟨right', hright, rfl⟩ := Option.map_eq_some_iff.mp hg
    rw [Formula.row, P.row_continued (fun _ h => ih h) hright, Formula.row, List.append_assoc,
      List.cons_append]
  | before op right ih =>
    obtain ⟨right', hright, rfl⟩ := Option.map_eq_some_iff.mp hg
    rw [Formula.row, P.row_continued (fun _ h => ih h) hright, Formula.row, List.cons_append]
  | behind left op => cases hg

lemma row_extend (f : Formula) (c : Continuation) : (P.extend f c).row = f.row ++ c.row := by
  unfold extend
  cases hinside : P.inside? c f with
  | none => exact row_after f c
  | some g => exact P.row_inside hinside

lemma row_grouped (s : Sequence) : (P.grouped s).row = s.row := by
  obtain ⟨first, rest⟩ := s
  rw [grouped, Sequence.row]
  induction rest generalizing first with
  | nil => exact (List.append_nil _).symm
  | cons c cs ih => rw [List.foldl_cons, ih, row_extend, List.flatMap_cons, List.append_assoc]

lemma row_sequence (f : Formula) : (P.sequence f).row = f.row := by
  induction f with
  | operand e => rfl
  | nested inner ih =>
    have hspelling : (P.grouped (P.sequence inner)).spelling = inner.spelling := by
      rw [← join_row, row_grouped, ih, join_row]
    rw [sequence, Sequence.row, Formula.row, hspelling]
    rfl
  | between left op right ihl ihr =>
    rw [Formula.row, ← ihl, ← ihr, sequence]
    simp only [Sequence.row, Continuation.row, List.flatMap_append, List.flatMap_cons,
      List.append_assoc, List.cons_append]
  | before op right ih =>
    rw [Formula.row, ← ih]
    rfl
  | behind left op ih =>
    rw [Formula.row, ← ih, sequence]
    simp only [Sequence.row, Continuation.row, List.flatMap_append, List.flatMap_cons,
      List.flatMap_nil, List.append_assoc, List.append_nil]

/-- Reading groups what is printed and does not change it. -/
lemma row_regrouped (f : Formula) : (P.regrouped f).row = f.row := by
  rw [regrouped, row_grouped, row_sequence]

end Rows

section Closing

variable {P : Precedence}

variable (P) in
/-- All of a formula is the left operand of an operator behind it. -/
def Closed (op : Operator) (f : Formula) : Prop :=
  ∀ o ∈ f.openOperators, P.strength op ≤ P.reach o

lemma continued?_eq_none_iff {c : Continuation} {op : Operator} {right : Formula}
    {inner? : Option Formula} :
    P.continued? c op right inner? = none ↔ inner? = none ∧ P.strength c.op ≤ P.reach op := by
  cases inner? with
  | none =>
    rw [continued?, ite_eq_right_iff, ← Nat.not_lt]
    simp
  | some inner => simp [continued?]

lemma inside?_eq_none_iff (c : Continuation) (f : Formula) :
    P.inside? c f = none ↔ P.Closed c.op f := by
  induction f with
  | operand e => exact iff_of_true rfl (List.forall_mem_nil _)
  | nested inner => exact iff_of_true rfl (List.forall_mem_nil _)
  | between left op right _ ih =>
    rw [inside?, Option.map_eq_none_iff, continued?_eq_none_iff, ih, and_comm, Closed, Closed,
      Formula.openOperators, List.forall_mem_cons]
  | before op right ih =>
    rw [inside?, Option.map_eq_none_iff, continued?_eq_none_iff, ih, and_comm, Closed, Closed,
      Formula.openOperators, List.forall_mem_cons]
  | behind left op => exact iff_of_true rfl (List.forall_mem_nil _)

lemma Closed.extend {f : Formula} {c : Continuation} (h : P.Closed c.op f) :
    P.extend f c = c.after f := by
  rw [Precedence.extend, (inside?_eq_none_iff c f).mpr h, Option.getD_none]

/-- An operator that reaches further than a continuation binds takes it into its right operand. -/
lemma continued?_of_lt {right : Formula} {op : Operator} {c : Continuation}
    (h : P.reach op < P.strength c.op) :
    P.continued? c op right (P.inside? c right) = some (P.extend right c) := by
  rw [Precedence.extend]
  cases P.inside? c right with
  | none => exact if_pos h
  | some inner => rfl

lemma extend_between {left right : Formula} {op : Operator} {c : Continuation}
    (h : P.reach op < P.strength c.op) :
    P.extend (.between left op right) c = .between left op (P.extend right c) := by
  rw [Precedence.extend, inside?, continued?_of_lt h]
  rfl

lemma extend_before {right : Formula} {op : Operator} {c : Continuation}
    (h : P.reach op < P.strength c.op) :
    P.extend (.before op right) c = .before op (P.extend right c) := by
  rw [Precedence.extend, inside?, continued?_of_lt h]
  rfl

lemma foldl_extend_wrapped {wrap : Formula → Formula} {cs : List Continuation}
    (h : ∀ c ∈ cs, ∀ f, P.extend (wrap f) c = wrap (P.extend f c)) (f : Formula) :
    cs.foldl P.extend (wrap f) = wrap (cs.foldl P.extend f) := by
  induction cs generalizing f with
  | nil => rfl
  | cons c cs ih =>
    obtain ⟨hc, hcs⟩ := List.forall_mem_cons.mp h
    rw [List.foldl_cons, List.foldl_cons, hc, ih hcs]

lemma regrouped_between {left right : Formula} {op : Operator} (hleft : P.Closed op (P.regrouped left))
    (hright : ∀ c ∈ (P.sequence right).rest, P.reach op < P.strength c.op) :
    P.regrouped (.between left op right) = .between (P.regrouped left) op (P.regrouped right) := by
  have hop : P.extend (P.regrouped left) (.between op (P.sequence right).first) =
      .between (P.regrouped left) op (P.sequence right).first := Closed.extend hleft
  rw [regrouped, sequence, grouped, List.foldl_append, List.foldl_cons]
  change (P.sequence right).rest.foldl P.extend (P.extend (P.regrouped left) _) = _
  rw [hop]
  exact foldl_extend_wrapped (fun c hc _ => extend_between (hright c hc)) _

lemma regrouped_before {right : Formula} {op : Operator}
    (hright : ∀ c ∈ (P.sequence right).rest, P.reach op < P.strength c.op) :
    P.regrouped (.before op right) = .before op (P.regrouped right) :=
  foldl_extend_wrapped (fun c hc _ => extend_before (hright c hc)) _

lemma regrouped_behind {left : Formula} {op : Operator} (h : P.Closed op (P.regrouped left)) :
    P.regrouped (.behind left op) = .behind (P.regrouped left) op := by
  rw [regrouped, sequence, grouped, List.foldl_append, List.foldl_cons, List.foldl_nil]
  exact Closed.extend (c := .behind op) h

end Closing

section Stretching

/-- Formulas that differ at most in the right operand of their outermost operator. -/
inductive Stretches : Formula → Formula → Prop
  | between (left : Formula) (op : Operator) (right right' : Formula) :
      Stretches (.between left op right) (.between left op right')
  | before (op : Operator) (right right' : Formula) :
      Stretches (.before op right) (.before op right')

lemma Stretches.trans {f g h : Formula} (hfg : Stretches f g) (hgh : Stretches g h) :
    Stretches f h := by
  cases hfg with
  | between left op right right' =>
    cases hgh
    exact .between left op right _
  | before op right right' =>
    cases hgh
    exact .before op right _

variable {P : Precedence} {o : Operator}

lemma continued?_of_open {c : Continuation} {op : Operator} {right : Formula}
    (ho : o = op ∨ o ∈ right.openOperators) (hc : P.reach o < P.strength c.op)
    (hinner : o ∈ right.openOperators →
      ∃ g, P.inside? c right = some g ∧ Stretches right g ∧ o ∈ g.openOperators) :
    ∃ g, P.continued? c op right (P.inside? c right) = some g ∧
      (o = op ∨ o ∈ g.openOperators) := by
  rcases ho with rfl | ho
  · cases P.inside? c right with
    | some g => exact ⟨g, rfl, .inl rfl⟩
    | none => exact ⟨c.after right, if_pos hc, .inl rfl⟩
  · obtain ⟨g, hg, -, hopen⟩ := hinner ho
    exact ⟨g, by rw [hg]; rfl, .inr hopen⟩

/-- An open operator that reaches further than a continuation binds keeps it inside. -/
lemma exists_inside_of_open {c : Continuation} {f : Formula} (ho : o ∈ f.openOperators)
    (hc : P.reach o < P.strength c.op) :
    ∃ g, P.inside? c f = some g ∧ Stretches f g ∧ o ∈ g.openOperators := by
  induction f with
  | operand e => cases ho
  | nested inner => cases ho
  | between left op right _ ih =>
    obtain ⟨g, hg, hopen⟩ := continued?_of_open (List.mem_cons.mp ho) hc ih
    exact ⟨_, congrArg (Option.map _) hg, .between left op right g, List.mem_cons.mpr hopen⟩
  | before op right ih =>
    obtain ⟨g, hg, hopen⟩ := continued?_of_open (List.mem_cons.mp ho) hc ih
    exact ⟨_, congrArg (Option.map _) hg, .before op right g, List.mem_cons.mpr hopen⟩
  | behind left op => cases ho

lemma stretches_foldl_extend {f : Formula} {c : Continuation} {cs : List Continuation}
    (ho : o ∈ f.openOperators) (h : ∀ d ∈ c :: cs, P.reach o < P.strength d.op) :
    Stretches f ((c :: cs).foldl P.extend f) ∧
      o ∈ ((c :: cs).foldl P.extend f).openOperators := by
  induction cs generalizing f c with
  | nil =>
    obtain ⟨g, hg, hstretch, hopen⟩ := exists_inside_of_open ho (h c List.mem_cons_self)
    rw [List.foldl_cons, List.foldl_nil, extend, hg]
    exact ⟨hstretch, hopen⟩
  | cons d cs ih =>
    obtain ⟨hc, hcs⟩ := List.forall_mem_cons.mp h
    obtain ⟨g, hg, hstretch, hopen⟩ := exists_inside_of_open ho hc
    rw [List.foldl_cons, extend, hg]
    obtain ⟨hrest, hlast⟩ := ih hopen hcs
    exact ⟨hstretch.trans hrest, hlast⟩

lemma stretches_regrouped_between {left right : Formula} {op : Operator}
    (ho : o ∈ (P.regrouped left).openOperators) (hop : P.reach o < P.strength op)
    (hright : ∀ c ∈ (P.sequence right).rest, P.reach o < P.strength c.op) :
    Stretches (P.regrouped left) (P.regrouped (.between left op right)) ∧
      o ∈ (P.regrouped (.between left op right)).openOperators := by
  have h := stretches_foldl_extend (c := .between op (P.sequence right).first) ho
    (List.forall_mem_cons.mpr ⟨hop, hright⟩)
  rw [regrouped, grouped, ← List.foldl_append] at h
  exact h

end Stretching

end Precedence

end RowFence.Sql
