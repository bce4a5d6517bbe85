import Mathlib.Tactic.Lemma
import RowFence.Proofs.Meaning.Statement
import RowFence.Text.Digits

/-! A small database engine: numbers and null, comparisons and conjunctions of them, and queries
that select columns. -/

namespace RowFence.Meaning.Numbers

open Sql

abbrev Datum := Option Nat

def truth : Datum → Option Bool := Option.map (· != 0)

def ofTruth : Option Bool → Datum := Option.map fun b => if b then 1 else 0

def binary (op : BinaryOp) (a b : Datum) : Datum :=
  match op, a, b with
  | .and, a, b => ofTruth (conjunction (truth a) (truth b))
  | .eq, some m, some n => ofTruth (some (m == n))
  | _, _, _ => none

def candidates (level : Level Datum) (qualifier : Name) (column : Ident) : List (Bound Datum) :=
  match qualifier with
  | [] => level.row.items.filter fun b => b.columns.any (foldName · == column.folded)
  | _ => level.row.items.filter (·.answers qualifier)

def column (name : Ident) (qualifier : Name) : Env Datum → Datum
  | [] => none
  | level :: env =>
    match candidates level qualifier name with
    | [b] => cell none b.columns b.values name.value
    | _ => column name qualifier env

def shared (left right : Frame Datum) (name : String) : Bool :=
  let value (f : Frame Datum) := column ⟨name, none⟩ [] [⟨f, []⟩]
  truth (binary .eq (value left) (value right)) == some true

def merges (m : Merge) (left right : Frame Datum) : Bool :=
  match m with
  | .nothing => true
  | .columns names => names.all fun i => shared left right i.value
  | .natural =>
    let columns (f : Frame Datum) := f.items.flatMap (·.columns)
    ((columns left).filter (columns right).contains).all (shared left right)

def itemColumns (blank : Frame Datum) : Item Datum → List String
  | .term _ (some a) => [a.value]
  | .term ⟨.name parts, _⟩ none => [(parts.getLast?.map (·.value)).getD ""]
  | .term _ none => [""]
  | .wildcard [] _ => blank.items.flatMap (·.columns)
  | .wildcard qualifier _ => (blank.items.filter (·.answers qualifier)).flatMap (·.columns)

def itemValues (env : Env Datum) (row : Frame Datum) : Item Datum → List Datum
  | .term t _ => [t.value (⟨row, []⟩ :: env)]
  | .wildcard [] _ => row.items.flatMap (·.values)
  | .wildcard qualifier _ => (row.items.filter (·.answers qualifier)).flatMap (·.values)

def select (clauses : Clauses Datum) (env : Env Datum) (source : Source Datum) : Answer Datum where
  columns := clauses.items.flatMap (itemColumns source.blank)
  rows := source.rows.map fun row => (clauses.items.flatMap (itemValues env row), ⟨row, []⟩)

lemma truth_ofTruth (b : Option Bool) : truth (ofTruth b) = b := by
  rcases b with _ | _ | _ <;> rfl

lemma column_of_filter (level : Level Datum) (env : Env Datum) (qualifier : Name) (i : Ident)
    (b : Bound Datum) (h : level.row.items.filter (·.answers qualifier) = [b]) :
    column i qualifier (level :: env) = cell none b.columns b.values i.value := by
  have hcandidates : candidates level qualifier i = [b] := by
    cases qualifier with
    | nil =>
      have hnone : level.row.items.filter (·.answers []) = [] :=
        List.filter_eq_nil_iff.mpr fun _ _ => Bool.false_ne_true
      rw [hnone] at h
      exact absurd h (List.cons_ne_nil b []).symm
    | cons q qualifier => exact h
  rw [column, hcandidates]

def engine : Engine Datum where
  null := none
  truth
  value s := Text.decimal? s.toList
  name env parts :=
    match parts.getLast? with
    | some i => column i parts.dropLast env
    | none => none
  binary
  call _ _ _ := none
  form _ _ := none
  merges
  nearest _ _ _ _ _ := true
  access _ _ _ rows := rows
  function _ _ _ := ⟨[], []⟩
  renamed _ row := row
  select
  setOp _ _ l r := { l with rows := l.rows ++ r.rows }
  arrange _ _ answer := answer
  body _ _ := ⟨[], []⟩
  truth_and a b := truth_ofTruth (conjunction (truth a) (truth b))
  truth_null a := by
    cases a <;> exact nofun
  name_qualified level env qualifier i b h := by
    rw [List.getLast?_concat, List.dropLast_concat]
    exact column_of_filter level env qualifier i b h

/-! Statements over a small shop. -/

def table (name : String) : TableFactor := .base [⟨name, none⟩] [] none []

def columnOf (table name : String) : Expr := .name [⟨table, none⟩, ⟨name, none⟩]

def equal (left right : Expr) : Expr := .binary left .eq right

def join (op : JoinOp) (relation : TableFactor) (condition : Expr) : Join where
  isGlobal := false
  op
  relation
  matching := none
  constraint := .on condition

def selectAll (tables : List TableWithJoins) (condition : Option Expr) : Query where
  recursive := false
  ctes := []
  body := .select
    { top := [], topFirst := false, distinct := .none, items := [.wildcard [] []], into := "", tables,
      views := [], condition, groupAll := false, groupBy := [], groupModifiers := [], sorting := [],
      having := none, tail := [] }
  orderBy := []
  interpolate := []
  limit := none
  tail := []

def tenants : Table Datum := ⟨["id"], [[some 1], [some 2]]⟩

def orders (rows : List (List Datum)) : Table Datum := ⟨["id", "customer_id", "tenant_id"], rows⟩

def items (rows : List (List Datum)) : Table Datum := ⟨["order_id", "tenant_id"], rows⟩

def shop (orderRows itemRows : List (List Datum)) : Store Datum
  | ["s2_tenant"] => tenants
  | ["orders"] => orders orderRows
  | ["items"] => items itemRows
  | _ => ⟨[], []⟩

lemma shop_of_ne {path : List String} (h : path ≠ ["orders"])
    (rows rows' itemRows : List (List Datum)) :
    shop rows itemRows path = shop rows' itemRows path := by
  unfold shop
  split
  · rfl
  · exact absurd rfl h
  · rfl
  · rfl

end RowFence.Meaning.Numbers
