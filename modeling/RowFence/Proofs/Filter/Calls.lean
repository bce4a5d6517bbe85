import RowFence.Filter
import RowFence.Proofs.Sql.Construct

/-! Which functions an accepted filter can call: no forbidden one where an operand stands, and any
where a table stands. -/

namespace RowFence.Filter

open Sql

/-- The function that is called where an operand stands, with parentheses or, for some, without. -/
def operandCalled? : Construct → Option Name
  | .expr (.call name _) => some name
  | .expr (.name [⟨word, none⟩]) =>
    if bareFunctions.contains (upperCase word) then some [⟨word, none⟩] else none
  | _ => none

/-- Only a list of arguments starts with a parenthesis: a partition clause and an ordinality column,
which may stand beside it, start otherwise. -/
def opensArguments : Piece → Bool
  | .text s => s.toList.head? == some '('
  | _ => false

/-- The function whose result is taken for a table. -/
def tableCalled? : Construct → Option Name
  | .factor (.base name arguments _ _) => if arguments.any opensArguments then some name else none
  | _ => none

def Calls (c : Construct) (name : Name) : Prop :=
  operandCalled? c = some name ∨ tableCalled? c = some name

def IsForbidden (name : Name) : Prop :=
  ∃ last, name.getLast? = some last ∧ isForbiddenFunction last.value = true

lemma found_calledAt (c : Construct) :
    c.found calledAt = ((operandCalled? c).bind List.getLast?).toList.map (·.value) := by
  cases c with
  | expr e =>
    cases e with
    | name parts =>
      match parts with
      | [⟨word, none⟩] =>
        simp only [Construct.found, calledAt, operandCalled?]
        split <;> rfl
      | [] | ⟨_, none⟩ :: _ :: _ | ⟨_, some _⟩ :: _ => rfl
    | _ => rfl
  | factor t => cases t <;> rfl
  | _ => rfl

lemma least?_eq_none_iff {as : List String} : least? as = none ↔ as = [] := by
  cases as with
  | nil => exact iff_of_true rfl rfl
  | cons a as =>
    refine iff_of_false ?_ (List.cons_ne_nil a as)
    rw [least?]
    cases least? as <;> exact Option.some_ne_none _

lemma mem_calledFunctions_iff {e : Expr} {word : String} :
    word ∈ calledFunctions e ↔ ∃ place c name last, (Construct.expr e).at? place = some c ∧
      operandCalled? c = some name ∧ name.getLast? = some last ∧ last.value = word := by
  change word ∈ (Construct.expr e).collect calledAt ↔ _
  rw [Construct.mem_collect_iff]
  simp only [found_calledAt, List.mem_map, Option.mem_toList, Option.bind_eq_some_iff]
  constructor
  · rintro ⟨place, c, hc, last, ⟨name, hname, hlast⟩, hword⟩
    exact ⟨place, c, name, last, hc, hname, hlast, hword⟩
  · rintro ⟨place, c, name, last, hc, hname, hlast, hword⟩
    exact ⟨place, c, hc, last, ⟨name, hname, hlast⟩, hword⟩

lemma forbiddenCall?_eq_none_iff {e : Expr} :
    forbiddenCall? e = none ↔ ∀ place c name, (Construct.expr e).at? place = some c →
      operandCalled? c = some name → ¬ IsForbidden name := by
  rw [forbiddenCall?, least?_eq_none_iff, List.filter_eq_nil_iff]
  constructor
  · rintro h place c name hc hname ⟨last, hlast, hforbidden⟩
    exact h last.value (mem_calledFunctions_iff.2 ⟨place, c, name, last, hc, hname, hlast, rfl⟩)
      hforbidden
  · intro h word hword hforbidden
    obtain ⟨place, c, name, last, hc, hname, hlast, rfl⟩ := mem_calledFunctions_iff.1 hword
    exact h place c name hc hname ⟨last, hlast, hforbidden⟩

/-- A filter is accepted just in case it passes each screen in its turn; the last one is that no
operand in it calls a forbidden function. -/
lemma rejection?_eq_none_iff {d : Dialect} {filter : String} :
    rejection? d filter = none ↔
      let text := Text.trimChars filter.toList
      text = [] ∨ isDangerous text = false ∧ findKeyword? false text = none ∧
        ∃ e, condition d (.ofList text) = .ok e ∧ forbiddenCall? e = none := by
  unfold rejection?
  generalize Text.trimChars filter.toList = text
  dsimp only
  cases text with
  | nil => exact iff_of_true rfl (.inl rfl)
  | cons c cs =>
    rw [if_neg (by simp), or_iff_right (List.cons_ne_nil c cs)]
    cases isDangerous (c :: cs) with
    | true => simp
    | false =>
      cases findKeyword? false (c :: cs) with
      | some found => simp
      | none => cases condition d (.ofList (c :: cs)) <;> simp

def namedTables : Node → List Name
  | .table name _ => [name]
  | _ => []

lemma mem_collect_namedTables {e : Expr} {place : List Nat} {t : TableFactor} {name : Name}
    (ht : (Construct.expr e).at? place = some (.factor t))
    (hname : tableCalled? (.factor t) = some name) : name ∈ e.collect namedTables := by
  refine (Construct.mem_collect_iff namedTables (.expr e) name).2 ⟨place, _, ht, ?_⟩
  cases t with
  | base named arguments alias? hints =>
    obtain rfl : named = name := by
      simp only [tableCalled?] at hname
      split at hname
      · exact Option.some.inj hname
      · cases hname
    exact List.mem_singleton.2 rfl
  | _ => cases hname

/-- No operand of an accepted filter calls a forbidden function, and then nothing in it does, just in
case none is called for the sake of a table: only what stands in a FROM clause escapes. -/
theorem calls_allowed_iff_of_accepted {d : Dialect} {filter : String}
    (accepted : rejection? d filter = none) :
    Text.trimChars filter.toList = [] ∨
      ∃ e, condition d (.ofList (Text.trimChars filter.toList)) = .ok e ∧
        (∀ place c name, (Construct.expr e).at? place = some c → operandCalled? c = some name →
          ¬ IsForbidden name) ∧
        ((∀ place c name, (Construct.expr e).at? place = some c → Calls c name →
            ¬ IsForbidden name) ↔
          ∀ place t name, (Construct.expr e).at? place = some (.factor t) →
            tableCalled? (.factor t) = some name → ¬ IsForbidden name) := by
  rcases rejection?_eq_none_iff.1 accepted with hblank | ⟨-, -, e, parsed, hcalls⟩
  · exact .inl hblank
  have hoperands := forbiddenCall?_eq_none_iff.1 hcalls
  refine .inr ⟨e, parsed, hoperands, fun h place t name ht hname => h place _ name ht (.inr hname),
    ?_⟩
  rintro htables place c name hc (hoperand | htable)
  · exact hoperands place c name hc hoperand
  · cases c with
    | factor t => exact htables place t name hc htable
    | _ => cases htable

theorem calls_allowed_largestItem :
    let filter := "id IN (SELECT MAX(id) FROM items)"
    rejection? .mysql filter = none ∧
      ∃ e, condition .mysql (.ofList (Text.trimChars filter.toList)) = .ok e ∧
        ∀ place c name, (Construct.expr e).at? place = some c → Calls c name →
          ¬ IsForbidden name := by
  intro filter
  have accepted : rejection? .mysql filter = none := by decide +kernel
  have hnonblank : Text.trimChars filter.toList ≠ [] := by decide +kernel
  have htables : (condition .mysql (.ofList (Text.trimChars filter.toList))).toOption.map
      (·.collect namedTables) = some [[⟨"items", none⟩]] := by decide +kernel
  obtain ⟨e, parsed, -, hcalls⟩ := (calls_allowed_iff_of_accepted accepted).resolve_left hnonblank
  refine ⟨accepted, e, parsed, hcalls.2 fun place t name ht hname => ?_⟩
  rw [parsed] at htables
  have hmem := mem_collect_namedTables ht hname
  rw [show e.collect namedTables = [[⟨"items", none⟩]] from Option.some.inj htables] at hmem
  obtain rfl := List.mem_singleton.1 hmem
  rintro ⟨last, hlast, hforbidden⟩
  obtain rfl := Option.some.inj hlast
  exact absurd hforbidden (by decide +kernel)

theorem calls_version_of_accepted :
    let filter := "id IN (SELECT v FROM VERSION())"
    rejection? .mysql filter = none ∧
      ∃ e, condition .mysql (.ofList (Text.trimChars filter.toList)) = .ok e ∧
        ∃ place c name, (Construct.expr e).at? place = some c ∧ Calls c name ∧
          IsForbidden name := by
  intro filter
  have htable : ((condition .mysql (.ofList (Text.trimChars filter.toList))).toOption.bind
      fun e => ((Construct.expr e).at? [3, 0, 0, 0, 2, 0]).bind tableCalled?) =
        some [⟨"VERSION", none⟩] := by decide +kernel
  refine ⟨by decide +kernel, ?_⟩
  cases parsed : condition .mysql (.ofList (Text.trimChars filter.toList)) with
  | error fault =>
    rw [parsed] at htable
    cases htable
  | ok e =>
    rw [parsed] at htable
    change ((Construct.expr e).at? [3, 0, 0, 0, 2, 0]).bind tableCalled? = _ at htable
    obtain ⟨c, hc, hname⟩ := Option.bind_eq_some_iff.1 htable
    exact ⟨e, rfl, _, c, _, hc, .inr hname, ⟨"VERSION", none⟩, rfl, by decide +kernel⟩

end RowFence.Filter
