import RowFence.Proofs.Policy.TableName
import RowFence.Scope

/-! Rows of tables, rows that a FROM clause puts together, and what an expression reads. -/

namespace RowFence.Meaning

open Sql

structure Table (V : Type) where
  columns : List String
  rows : List (List V)

/-- The tables of a database by their folded names. -/
abbrev Store (V : Type) := List String → Table V

structure Occurrence where
  name : Name
  alias? : Option TableAlias
  deriving DecidableEq

namespace Occurrence

def qualifier (o : Occurrence) : Name :=
  match o.alias? with
  | some a => [a.name]
  | none => o.name

def path (o : Occurrence) : List String := Name.folded o.qualifier

end Occurrence

/-- A row at its place in a FROM clause. It is stored when its table is one of the database. -/
structure Bound (V : Type) where
  occurrence : Occurrence
  stored : Bool
  columns : List String
  values : List V

inductive Merge where
  | nothing
  | columns (names : List Ident)
  | natural
  deriving DecidableEq

/-- A row of a FROM clause, built as the clause is. -/
inductive Frame (V : Type) where
  | empty
  | item (b : Bound V)
  | join (op : JoinOp) (merge : Merge) (left right : Frame V)

variable {V : Type}

namespace Bound

def path (b : Bound V) : List String := b.occurrence.path

def answers (b : Bound V) (qualifier : Name) : Bool :=
  !qualifier.isEmpty && (Name.folded qualifier).isSuffixOf b.path

end Bound

def cell (missing : V) (columns : List String) (values : List V) (column : String) : V :=
  match (columns.zip values).find? fun c => foldName c.1 == foldName column with
  | some c => c.2
  | none => missing

def Frame.items : Frame V → List (Bound V)
  | .empty => []
  | .item b => [b]
  | .join _ _ l r => l.items ++ r.items

structure Level (V : Type) where
  row : Frame V
  group : List (Frame V)

/-- What an expression reads: the rows of its query first, then those of the queries around. -/
abbrev Env (V : Type) := List (Level V)

inductive Label where
  | name (parts : Name)
  | value (spelling : String)
  | other

structure Term (V : Type) where
  label : Label
  value : Env V → V

/-- The rows of a FROM clause, and the row of nulls that stands for none of them. -/
structure Source (V : Type) where
  blank : Frame V
  rows : List (Frame V)

structure Answer (V : Type) where
  columns : List String
  rows : List (List V × Level V)

def Answer.table (a : Answer V) : Table V := ⟨a.columns, a.rows.map (·.1)⟩

end RowFence.Meaning
