import RowFence.Proofs.Meaning.Engine

/-! The rows of a FROM clause. Joins are read as nested loops over lists of rows, so that their
order is kept. -/

namespace RowFence.Meaning

open Sql

variable {V : Type}

/-- The common tables in scope by their folded names, the innermost ones last. -/
abbrev Common (V : Type) := List (String × Table V)

def Link.merged : Link V → Merge
  | .on _ => .nothing
  | .merge m => m

def renamedColumns (alias? : Option TableAlias) (columns : List String) : List String :=
  match alias? with
  | some a => a.columns.map (·.value) ++ columns.drop a.columns.length
  | none => columns

def lookup (D : Store V) (c : Common V) (name : Name) : Table V × Bool :=
  match Name.folded name with
  | [key] =>
    match c.reverse.lookup key with
    | some t => (t, false)
    | none => (D [key], true)
  | path => (D path, true)

/-- Whether the right table of a join may refer to rows of the left one. -/
def readsLeft : JoinOp → Bool
  | .right | .full | .rightSemi | .rightAnti => false
  | _ => true

def Frame.beside (left f : Frame V) : Frame V := .join .cross .nothing left f

def padded (blank : Frame V) (rows : List (Frame V)) : List (Frame V) :=
  if rows.isEmpty then [blank] else rows

def pairs (op : JoinOp) (link : Link V) (first : Source V) (kept : Frame V → List (Frame V)) :
    List (Frame V) :=
  first.rows.flatMap fun l => (kept l).map (.join op link.merged l)

namespace Engine

variable (E : Engine V)

def placed (place : Occurrence) (stored : Bool) (columns : List String) (rows : List (List V)) :
    Source V where
  blank := .item ⟨place, stored, columns, columns.map fun _ => E.null⟩
  rows := rows.map fun values => .item ⟨place, stored, columns, values⟩

def links (env : Env V) (op : JoinOp) (link : Link V) (l r : Frame V) : Bool :=
  match link with
  | .on t => E.isTrue (t.value (⟨.join op .nothing l r, []⟩ :: env))
  | .merge .nothing => true
  | .merge m => E.merges m l r

section Rows

variable (env : Env V) (op : JoinOp) (link : Link V) (first : Source V) (second : Frame V → Source V)

def hits (l : Frame V) : List (Frame V) := (second l).rows.filter (E.links env op link l)

def isHit (r : Frame V) : Bool := first.rows.any fun l => E.links env op link l r

def lone : List (Frame V) :=
  ((second first.blank).rows.filter (!E.isHit env op link first ·)).map
    (.join op link.merged first.blank)

def joined (matching : Option (Term V)) : Source V :=
  let hits := E.hits env op link second
  let inner := pairs op link first hits
  let outer := pairs op link first fun l => padded (second l).blank (hits l)
  let lone := E.lone env op link first second
  let blank := Frame.join op link.merged first.blank (second first.blank).blank
  match op with
  | .inner | .cross | .crossApply => ⟨blank, inner⟩
  | .left | .outerApply => ⟨blank, outer⟩
  | .right => ⟨blank, inner ++ lone⟩
  | .full => ⟨blank, outer ++ lone⟩
  | .leftSemi => ⟨first.blank, first.rows.filter fun l => !(hits l).isEmpty⟩
  | .leftAnti => ⟨first.blank, first.rows.filter fun l => (hits l).isEmpty⟩
  | .rightSemi =>
    ⟨(second first.blank).blank, (second first.blank).rows.filter (E.isHit env op link first)⟩
  | .rightAnti =>
    ⟨(second first.blank).blank, (second first.blank).rows.filter (!E.isHit env op link first ·)⟩
  | .asOf =>
    ⟨blank, pairs op link first fun l => (hits l).filter (E.nearest matching env l (hits l))⟩

end Rows

/-- The rows of a table, join or subquery. Rows of tables to the left show to a lateral one. -/
def source (D : Store V) (c : Common V) (env : Env V) : Plan V → Frame V → Source V
  | .unit, _ => ⟨.empty, [.empty]⟩
  | .base place access?, _ =>
    let (table, stored) := lookup D c place.name
    let rows := match access? with
      | none => table.rows
      | some f => f env table.rows
    E.placed place stored (renamedColumns place.alias? table.columns) rows
  | .derived lateral query alias?, left =>
    let table := query (if lateral then ⟨left, []⟩ :: env else env)
    E.placed ⟨[], alias?⟩ false (renamedColumns alias? table.columns) table.rows
  | .nested inner none, left => source D c env inner left
  | .nested inner (some a), left =>
    let s := source D c env inner left
    ⟨E.renamed a s.blank, s.rows.map (E.renamed a)⟩
  | .join op matching link l r, left =>
    E.joined env op link (source D c env l left)
      (fun f => source D c env r (if readsLeft op then left.beside f else left)) matching

def fetch (D : Store V) (c : Common V) (env : Env V) (plan : Plan V)
    (condition : Option (Term V)) : Source V :=
  let s := E.source D c env plan .empty
  { s with rows := s.rows.filter fun f => E.holds condition (⟨f, []⟩ :: env) }

end Engine

end RowFence.Meaning
