import RowFence.Database.Effect
import RowFence.Database.Reading.Statement
import RowFence.Session

/-! A connection to a database: it takes texts, and runs the statements in them or refuses them. -/

namespace RowFence.Database

structure Savepoint where
  name : String
  catalog : Catalog

structure Transaction where
  before : Catalog
  endsWithSavepoint : Bool
  savepoints : List Savepoint

structure Connection where
  catalog : Catalog
  transaction? : Option Transaction := none

def savepointsFrom (name : String) (savepoints : List Savepoint) : List Savepoint :=
  savepoints.dropWhile fun s => !sameName s.name name

namespace Connection

def savepoint (c : Connection) (name : String) : Connection :=
  let t := c.transaction?.getD ⟨c.catalog, true, []⟩
  { c with transaction? := some { t with savepoints := ⟨name, c.catalog⟩ :: t.savepoints } }

def release? (c : Connection) (name : String) : Option Connection := do
  let t ← c.transaction?
  match savepointsFrom name t.savepoints with
  | [] => none
  | _ :: savepoints =>
    if savepoints.isEmpty && t.endsWithSavepoint then return { c with transaction? := none }
    return { c with transaction? := some { t with savepoints } }

def rollbackTo? (c : Connection) (name : String) : Option Connection := do
  let t ← c.transaction?
  match savepointsFrom name t.savepoints with
  | [] => none
  | s :: savepoints =>
    return { catalog := s.catalog, transaction? := some { t with savepoints := s :: savepoints } }

def attach? (c : Connection) (name : String) : Option Connection :=
  if hasName c.catalog.schemas name then none
  else some { c with catalog := { c.catalog with schemas := c.catalog.schemas ++ [name] } }

def detach? (c : Connection) (name : String) : Option Connection :=
  if hasName ["main", "temp"] name || !hasName c.catalog.schemas name then none
  else some { c with catalog := c.catalog.without name }

def run? (c : Connection) (s : Statement) (e : Effect) : Option Connection :=
  match s, c.transaction? with
  | .begin, none => some { c with transaction? := some ⟨c.catalog, false, []⟩ }
  | .begin, some _ => none
  | .commit, t? => t?.map fun _ => { c with transaction? := none }
  | .rollback, t? => t?.map fun t => { catalog := t.before }
  | .savepoint name, _ => some (c.savepoint name)
  | .release name, _ => c.release? name
  | .rollbackTo name, _ => c.rollbackTo? name
  | .vacuum _, some _ => none
  | .attach name, _ => c.attach? name
  | .detach name, none => c.detach? name
  | .detach _, some _ => none
  | _, _ => some { c with catalog := e.catalog }

def accepted? (c : Connection) (w : Written) : Option (Statement × Effect) := do
  let s ← w.statement?
  if w.hasParameters && s.isDefinition then none
  return (s, ← c.catalog.effect? s)

/-- Runs one statement without parameters, and tells whether it has a row. Of a text without a
statement nothing can be run. -/
def runFirst (c : Connection) (ws : List Written) : Option Bool × Connection :=
  match ws with
  | [] => (none, c)
  | w :: _ =>
    match c.accepted? w with
    | none => (none, c)
    | some (s, e) =>
      if w.hasParameters then (none, c)
      else
        match c.run? s e with
        | some c => (some e.hasRow, c)
        | none => (none, c)

def runAll (c : Connection) : List Written → Bool × Connection
  | [] => (true, c)
  | w :: ws =>
    match (c.accepted? w).bind fun (s, e) => c.run? s e with
    | some c => runAll c ws
    | none => (false, c)

/-- The texts that are run for a call, or nothing if the database refuses. A statement that is run
for its effect gives no row. -/
def submit (c : Connection) (call : Session.Call) (text : String) :
    Option (List String) × Connection :=
  let ws := statements text
  let first := ws.take 1
  match call with
  | .prepare =>
    if first.all fun w => (c.accepted? w).isSome then
      (some [(first.head?.map (·.text)).getD ""], c)
    else (none, c)
  | .batch =>
    let (done, c) := c.runAll ws
    (if done then some (ws.map (·.text)) else none, c)
  | .execute =>
    let (hasRow?, c) := c.runFirst ws
    (if hasRow? = some false then some (first.map (·.text)) else none, c)
  | .queryRow =>
    let (hasRow?, c) := c.runFirst ws
    (if hasRow?.isSome then some (first.map (·.text)) else none, c)

end Connection

end RowFence.Database
