import RowFence.Database.Syntax

/-! What names stand for in a place of a statement. -/

namespace RowFence.Database

def lowered (s : String) : String := s.map Char.toLower

def sameName (a b : String) : Bool := lowered a == lowered b

def hasName (names : List String) (name : String) : Bool := names.any (sameName name)

structure Relation where
  columns : List String
  hidden : List String := []
  hasRowNumber : Bool := false
  isFilled : Bool := false
  deriving DecidableEq, Repr

def Relation.hasColumn (r : Relation) (name : String) : Bool := hasName (r.columns ++ r.hidden) name

def rowNumbers : List String := ["rowid", "oid", "_rowid_"]

structure Shape where
  width : Nat := 1
  isAggregate : Bool := false
  deriving DecidableEq, Repr

structure Visible where
  schema? : Option String
  name : String
  relation : Relation
  /-- Columns that are one with those of the sources before. -/
  shared : List String := []
  /-- Whether its columns are meant only behind its name. -/
  onlyByName : Bool := false
  deriving DecidableEq, Repr

structure Level where
  sources : List Visible
  results : List (String × Shape) := []
  deriving DecidableEq, Repr

abbrev Scope := List Level

inductive Finding where
  | absent | ambiguous
  | found (s : Shape)
  deriving DecidableEq, Repr

namespace Visible

def matching (sources : List Visible) (name : String) : Nat :=
  sources.foldl (fun n v =>
    if v.relation.hasColumn name && !(0 < n && hasName v.shared name) then n + 1 else n) 0

def candidates (sources : List Visible) (name : String) : Nat :=
  match matching sources name with
  | 0 => if hasName rowNumbers name then sources.countP (·.relation.hasRowNumber) else 0
  | n => n

def isNamed (v : Visible) (path : Path) : Bool :=
  sameName v.name path.name && path.schema?.all fun s => v.schema?.any (sameName s)

end Visible

namespace Level

def result? (l : Level) (name : String) : Option Shape :=
  (l.results.find? fun (n, _) => sameName name n).map (·.2)

def find (l : Level) (name : String) : Finding :=
  match Visible.candidates (l.sources.filter (!·.onlyByName)) name with
  | 0 => (l.result? name).elim .absent .found
  | 1 => .found {}
  | _ => .ambiguous

def findIn (l : Level) (table : Path) (name : String) : Finding :=
  match Visible.candidates (l.sources.filter (·.isNamed table)) name with
  | 0 => .absent
  | 1 => .found {}
  | _ => .ambiguous

end Level

namespace Scope

def first (look : Level → Finding) : Scope → Finding
  | [] => .absent
  | l :: ls =>
    match look l with
    | .absent => first look ls
    | f => f

def find (s : Scope) (name : String) : Finding := s.first (·.find name)

def findIn (s : Scope) (table : Path) (name : String) : Finding := s.first (·.findIn table name)

end Scope

structure Stored where
  schema : String
  relation : Relation
  deriving DecidableEq, Repr

structure Environment where
  stored? : Path → Option Stored
  computed? : String → Option Relation
  isIndex : (index : String) → (table : Path) → Bool
  /-- Queries with names. Those that cannot be made sense of have nothing. -/
  queries : List (String × Option Relation) := []

namespace Environment

def query? (e : Environment) (path : Path) : Option (Option Relation) :=
  if path.schema?.isSome then none
  else (e.queries.find? fun (name, _) => sameName name path.name).map (·.2)

def source? (e : Environment) (path : Path) : Option (Option String × Relation) :=
  match e.query? path with
  | some found? => found?.map fun r => (none, r)
  | none =>
    match e.stored? path with
    | some s => some (some s.schema, s.relation)
    | none => (e.computed? path.name).map fun r => (none, r)

def withQueries (e : Environment) (queries : List (String × Option Relation)) : Environment :=
  { e with queries := queries ++ e.queries }

end Environment

end RowFence.Database
