import RowFence.Proofs.Meaning.Row

/-! Database engines: what is left open about the meaning of SQL, and what every engine keeps to. -/

namespace RowFence.Meaning

open Sql

variable {V : Type}

inductive Link (V : Type) where
  | on (condition : Term V)
  | merge (m : Merge)

/-- A FROM clause with the meanings of its conditions and subqueries. A table may be read through
a function, its partitions or hints, which then decide about its rows. -/
inductive Plan (V : Type) where
  | unit
  | base (place : Occurrence) (access? : Option (Env V → List (List V) → List (List V)))
  | derived (lateral : Bool) (query : Env V → Table V) (alias? : Option TableAlias)
  | nested (inner : Plan V) (alias? : Option TableAlias)
  | join (op : JoinOp) (matching : Option (Term V)) (link : Link V) (left right : Plan V)

inductive Part (V : Type) where
  | text (spelling : String)
  | term (t : Term V)
  | query (rows : Env V → Table V)
  | table (p : Plan V)

inductive Item (V : Type) where
  | term (t : Term V) (alias? : Option Ident)
  | wildcard (qualifier : Name) (options : List (Part V))

inductive Distinctness (V : Type) where
  | none
  | rows
  | on (keys : List (Term V))

structure Clauses (V : Type) where
  top : List (Part V)
  topFirst : Bool
  distinct : Distinctness V
  items : List (Item V)
  into : String
  views : List (Part V)
  groupAll : Bool
  groupBy : List (Term V)
  groupModifiers : List String
  sorting : List (Part V)
  having : Option (Term V)
  tail : List (Part V)

structure SortKey (V : Type) where
  key : Term V
  direction : String
  fill : List (Part V)

structure Arrangement (V : Type) where
  orderBy : List (SortKey V)
  interpolate : List (Part V)
  limit : Option (Term V)
  tail : List (Part V)

def conjunction : Option Bool → Option Bool → Option Bool
  | some false, _ => some false
  | _, some false => some false
  | some true, some true => some true
  | _, _ => none

structure Engine (V : Type) where
  null : V
  truth : V → Option Bool
  value : String → V
  name : Env V → Name → V
  binary : BinaryOp → V → V → V
  call : Name → List (Part V) → Env V → V
  form : List (Part V) → Env V → V
  /-- Whether two rows agree in the columns that a join compares. -/
  merges : Merge → Frame V → Frame V → Bool
  /-- Whether a row is the nearest one, among those that match a row. -/
  nearest : Option (Term V) → Env V → Frame V → List (Frame V) → Frame V → Bool
  access : List (Part V) → List (Part V) → Env V → List (List V) → List (List V)
  function : List (Part V) → List (Part V) → Env V → Table V
  renamed : TableAlias → Frame V → Frame V
  select : Clauses V → Env V → Source V → Answer V
  setOp : SetOp → String → Answer V → Answer V → Answer V
  arrange : Arrangement V → Env V → Answer V → Answer V
  body : List (Part V) → Env V → Answer V
  truth_and : ∀ a b, truth (binary .and a b) = conjunction (truth a) (truth b)
  truth_null : ∀ a, truth (binary .eq null a) ≠ some true
  /-- A qualifier that only one table of the innermost query answers to means that table. -/
  name_qualified : ∀ (level : Level V) (env : Env V) (qualifier : Name) (column : Ident)
    (b : Bound V), level.row.items.filter (·.answers qualifier) = [b] →
      name (level :: env) (qualifier ++ [column]) = cell null b.columns b.values column.value

namespace Engine

def isTrue (E : Engine V) (a : V) : Bool := E.truth a == some true

def holds (E : Engine V) : Option (Term V) → Env V → Bool
  | none, _ => true
  | some t, env => E.isTrue (t.value env)

/-- Whether a row belongs to a tenant. -/
def owns (E : Engine V) (p : Policy) (t : TenantId) (columns : List String) (values : List V) :
    Bool :=
  E.isTrue (E.binary .eq (cell E.null columns values p.tenantColumn) (E.value t.spelling))

/-- What is left of a database when every table with a tenant column is cut down to the rows of one
tenant. -/
def view (E : Engine V) (p : Policy) (t : TenantId) (D : Store V) : Store V := fun path =>
  if p.excludesTable (".".intercalate path) then D path
  else { D path with rows := (D path).rows.filter (E.owns p t (D path).columns) }

end Engine

end RowFence.Meaning
