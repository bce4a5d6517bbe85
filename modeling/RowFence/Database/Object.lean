import RowFence.Database.Change

/-! Statements that make, change and drop tables and what belongs to them. -/

namespace RowFence.Database

namespace Catalog

/-- Whether a name is free for something new. Names of the database's own are not. -/
def isFree (c : Catalog) (path : Path) : Bool :=
  (c.table? path).isNone && (c.view? path).isNone && !(lowered path.name).startsWith "sqlite_"

def isTaken (c : Catalog) (path : Path) : Bool :=
  (c.table? path).isSome || (c.view? path).isSome

def place? (c : Catalog) (temporary : Bool) (path : Path) : Option Path :=
  match temporary, path.schema? with
  | true, none => some ⟨some "temp", path.name⟩
  | true, some s => if sameName s "temp" then some ⟨some "temp", path.name⟩ else none
  | false, none => some ⟨some "main", path.name⟩
  | false, some s => (c.schemas.find? (sameName s)).map fun s => ⟨some s, path.name⟩

def sequences : Table := { name := "sqlite_sequence", columns := ["name", "seq"] }

def withTable (c : Catalog) (t : Table) : Catalog := { c with tables := c.tables ++ [t] }

def withSequences (c : Catalog) : Catalog :=
  if (c.table? ⟨none, "sqlite_sequence"⟩).isSome then c else c.withTable sequences

def createTable? (c : Catalog) (temporary ifNew : Bool) (path : Path) (body : TableBody) :
    Option Effect := do
  let path ← c.place? temporary path
  if c.isTaken path then if ifNew then return ⟨c, false⟩ else none
  if !c.isFree path || (c.index? path).isSome then none
  match body with
  | .given d => do
    let t ← d.table? c.names path
    let c := if d.counts then c.withSequences else c
    return ⟨c.withTable t, false⟩
  | .query q => do
    let r ← q.relation? c.names []
    let t : Table := {
      schema := path.schema?.getD "main", name := path.name
      columns := r.columns, isFilled := r.isFilled }
    return ⟨c.withTable t, false⟩

def createView? (c : Catalog) (temporary ifNew : Bool) (path : Path) (columns : List String)
    (q : Query) : Option Effect := do
  let path ← c.place? temporary path
  if c.isTaken path then if ifNew then return ⟨c, false⟩ else none
  if !c.isFree path || (c.index? path).isSome then none
  let v : View := ⟨path.schema?.getD "main", path.name, columns, q⟩
  return ⟨{ c with views := c.views ++ [v] }, false⟩

def isUsers (name : String) : Bool := !(lowered name).startsWith "sqlite_"

def hasStatistics (name : String) : Bool := (lowered name).startsWith "sqlite_stat"

def usersTable? (c : Catalog) (path : Path) : Option Table :=
  (c.table? path).filter fun t => isUsers t.name

def createIndex? (c : Catalog) (ifNew : Bool) (path : Path) (table : String)
    (columns condition : List Expr) : Option Effect := do
  let t ← c.usersTable? ⟨path.schema?, table⟩
  let path : Path := ⟨some t.schema, path.name⟩
  if (c.index? path).isSome then if ifNew then return ⟨c, false⟩ else none
  if !c.isFree path || (c.view? ⟨none, table⟩).isSome then none
  let s : Scope := [⟨[⟨none, t.name, t.relation, [], false⟩], []⟩]
  let _ ← (shapes? c.names s { queries := false } (columns ++ condition)).bind combined
  let i : Index := ⟨t.schema, path.name, t.name, keyColumns columns⟩
  return ⟨{ c with indexes := c.indexes ++ [i] }, false⟩

def createTrigger? (c : Catalog) (temporary ifNew : Bool) (path : Path) (d : TriggerDef) :
    Option Effect := do
  let path ← if temporary then c.place? true path else pure path
  let (schema, isView) ← match c.usersTable? d.table, c.view? d.table with
    | some t, _ => some (t.schema, false)
    | none, some v => some (v.schema, true)
    | none, none => none
  if d.isInstead != isView then none
  let schema := if temporary then "temp" else schema
  if (c.trigger? ⟨schema, path.name⟩).isSome then if ifNew then return ⟨c, false⟩ else none
  if (lowered path.name).startsWith "sqlite_" then none
  let t : Trigger := ⟨schema, path.name, d.table.name, d.isInstead, d.event⟩
  return ⟨{ c with triggers := c.triggers ++ [t] }, false⟩

def modules : List String := ["fts3", "fts4", "fts5", "rtree", "rtree_i32"]

def createVirtual? (c : Catalog) (ifNew : Bool) (path : Path) (module : String)
    (columns : List String) : Option Effect := do
  let path ← c.place? false path
  if c.isTaken path then if ifNew then return ⟨c, false⟩ else none
  if !c.isFree path || !hasName modules module || columns.isEmpty then none
  let t : Table := {
    schema := path.schema?.getD "main", name := path.name
    columns, hidden := [path.name, "rank"] }
  return ⟨c.withTable t, false⟩

def without (c : Catalog) (schema : String) : Catalog where
  schemas := c.schemas.filter fun s => !sameName s schema
  tables := c.tables.filter fun t => !sameName t.schema schema
  views := c.views.filter fun v => !sameName v.schema schema
  indexes := c.indexes.filter fun i => !sameName i.schema schema
  triggers := c.triggers.filter fun t => !sameName t.schema schema

def dropTable (c : Catalog) (t : Table) : Catalog where
  schemas := c.schemas
  tables := c.tables.filter fun u => !(sameName u.schema t.schema && sameName u.name t.name)
  views := c.views
  indexes := c.indexes.filter fun i => !(sameName i.schema t.schema && sameName i.table t.name)
  triggers := c.triggers.filter fun g => !sameName g.table t.name

def dropView (c : Catalog) (v : View) : Catalog where
  schemas := c.schemas
  tables := c.tables
  views := c.views.filter fun u => !(sameName u.schema v.schema && sameName u.name v.name)
  indexes := c.indexes
  triggers := c.triggers.filter fun g => !sameName g.table v.name

def dropped? (c : Catalog) (kind : ObjectKind) (path : Path) : Option Catalog :=
  match kind with
  | .table =>
    ((c.table? path).filter fun t => isUsers t.name || hasStatistics t.name).map c.dropTable
  | .view => (c.view? path).map c.dropView
  | .index => (c.index? path).map fun i =>
      { c with indexes := c.indexes.filter (· != i) }
  | .trigger => (c.trigger? path).map fun t =>
      { c with triggers := c.triggers.filter (· != t) }

def isOtherwise (c : Catalog) (kind : ObjectKind) (path : Path) : Bool :=
  match kind with
  | .table | .view => c.isTaken path
  | _ => false

def drop? (c : Catalog) (kind : ObjectKind) (ifThere : Bool) (path : Path) : Option Effect :=
  match c.dropped? kind path with
  | some c => some ⟨c, false⟩
  | none => if ifThere && !c.isOtherwise kind path then some ⟨c, false⟩ else none

def replaceName (names : List String) (old new : String) : List String :=
  names.map fun n => if sameName n old then new else n

def altered? (c : Catalog) (t : Table) : TableChange → Option Table
  | .rename name =>
    if c.isFree ⟨some t.schema, name⟩ && (c.index? ⟨some t.schema, name⟩).isNone then
      some { t with name }
    else none
  | .renameColumn column name =>
    if hasName t.columns column && !(hasName t.columns name && !sameName column name) then
      some { t with
        columns := replaceName t.columns column name
        generated := replaceName t.generated column name
        keys := t.keys.map fun k => replaceName k column name }
    else none
  | .addColumn d =>
    if hasName t.columns d.name || d.isKey || d.isUnique then none
    else some { t with
      columns := t.columns ++ [d.name]
      generated := t.generated ++ if d.isGenerated then [d.name] else [] }
  | .dropColumn column =>
    if hasName t.columns column && 1 < t.columns.length && !t.keys.any (fun k => hasName k column)
        && !c.indexes.any fun i => sameName i.table t.name && hasName i.columns column then
      some { t with columns := t.columns.filter fun n => !sameName n column }
    else none

def alter? (c : Catalog) (path : Path) (change : TableChange) : Option Effect := do
  let t ← c.usersTable? path
  let new ← c.altered? t change
  let moved (table : String) : String := if sameName table t.name then new.name else table
  let columns (i : Index) : List String := match sameName i.table t.name, change with
    | true, .renameColumn old name => replaceName i.columns old name
    | _, _ => i.columns
  return ⟨{ c with
    tables := c.tables.map fun u =>
      if sameName u.schema t.schema && sameName u.name t.name then new else u
    indexes := c.indexes.map fun i => { i with table := moved i.table, columns := columns i }
    triggers := c.triggers.map fun g => { g with table := moved g.table } }, false⟩

end Catalog

end RowFence.Database
