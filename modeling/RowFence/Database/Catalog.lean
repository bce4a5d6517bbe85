import RowFence.Database.Resolution

/-! The tables of a database and what belongs to them. -/

namespace RowFence.Database

structure Table where
  schema : String := "main"
  name : String
  columns : List String
  generated : List String := []
  hidden : List String := []
  keys : List (List String) := []
  hasRowNumber : Bool := true
  isFilled : Bool := false
  deriving DecidableEq, Repr

structure View where
  schema : String
  name : String
  columns : List String
  query : Query

structure Index where
  schema : String
  name : String
  table : String
  columns : List String
  deriving DecidableEq, Repr

structure Trigger where
  schema : String
  name : String
  table : String
  isInstead : Bool
  event : TriggerEvent
  deriving DecidableEq, Repr

structure Catalog where
  /-- In the order in which names without a schema are looked up. -/
  schemas : List String := ["temp", "main"]
  tables : List Table
  views : List View := []
  indexes : List Index := []
  triggers : List Trigger := []

namespace Table

def relation (t : Table) : Relation where
  columns := t.columns
  hidden := t.hidden
  hasRowNumber := t.hasRowNumber
  isFilled := t.isFilled

def plainColumns (t : Table) : List String := t.columns.filter fun n => !hasName t.generated n

def isWritable (t : Table) (name : String) : Bool :=
  hasName (t.plainColumns ++ t.hidden) name
    || (t.hasRowNumber && !t.relation.hasColumn name && hasName rowNumbers name)

end Table

def schemaTables (schema : String) : List String :=
  if schema = "temp" then ["sqlite_temp_master", "sqlite_temp_schema", "sqlite_master",
    "sqlite_schema"]
  else ["sqlite_master", "sqlite_schema"]

def schemaColumns : List String := ["type", "name", "tbl_name", "rootpage", "sql"]

def schemaTable? (path : Path) (schema : String) : Option Table :=
  if hasName (schemaTables schema) path.name && (path.schema?.isSome || schema = "main"
      || !hasName (schemaTables "main") path.name) then
    some { schema, name := path.name, columns := schemaColumns, isFilled := false }
  else none

def computedTables : List (List String × Relation) :=
  let json : Relation := ⟨["key", "value", "type", "atom", "id", "parent", "fullkey", "path"],
    ["json", "root"], true, false⟩
  let ofPragma (columns : List String) : Relation := ⟨columns, ["arg", "schema"], true, false⟩
  [(["json_each", "json_tree"], json),
    (["pragma_table_info"], ofPragma ["cid", "name", "type", "notnull", "dflt_value", "pk"]),
    (["pragma_table_xinfo"],
      ofPragma ["cid", "name", "type", "notnull", "dflt_value", "pk", "hidden"]),
    (["pragma_index_list"], ofPragma ["seq", "name", "unique", "origin", "partial"]),
    (["pragma_index_info"], ofPragma ["seqno", "cid", "name"]),
    (["pragma_foreign_key_list"],
      ofPragma ["id", "seq", "table", "from", "to", "on_update", "on_delete", "match"]),
    (["pragma_table_list"], ofPragma ["schema", "name", "type", "ncol", "wr", "strict"]),
    (["pragma_database_list"], ⟨["seq", "name", "file"], [], true, false⟩)]

def computedTable? (name : String) : Option Relation :=
  (computedTables.find? fun (names, _) => hasName names name).map (·.2)

namespace Catalog

def schemasFor (c : Catalog) (schema? : Option String) : List String :=
  match schema? with
  | none => c.schemas
  | some s => c.schemas.filter (sameName s)

def table? (c : Catalog) (path : Path) : Option Table :=
  (c.schemasFor path.schema?).findSome? fun schema =>
    (c.tables.find? fun t => sameName t.schema schema && sameName t.name path.name).or
      (schemaTable? path schema)

def view? (c : Catalog) (path : Path) : Option View :=
  (c.schemasFor path.schema?).findSome? fun schema =>
    c.views.find? fun v => sameName v.schema schema && sameName v.name path.name

def index? (c : Catalog) (path : Path) : Option Index :=
  (c.schemasFor path.schema?).findSome? fun schema =>
    c.indexes.find? fun i => sameName i.schema schema && sameName i.name path.name

def trigger? (c : Catalog) (path : Path) : Option Trigger :=
  (c.schemasFor path.schema?).findSome? fun schema =>
    c.triggers.find? fun t => sameName t.schema schema && sameName t.name path.name

def hasIndex (c : Catalog) (index : String) (table : Path) : Bool :=
  match c.table? table with
  | some t => c.indexes.any fun i =>
      sameName i.name index && sameName i.schema t.schema && sameName i.table t.name
  | none => false

/-- What names of tables stand for. Views are made of views to a depth. -/
def environment (c : Catalog) : (depth : Nat) → Environment
  | 0 => ⟨fun path => (c.table? path).map fun t => ⟨t.schema, t.relation⟩, computedTable?,
      c.hasIndex, []⟩
  | depth + 1 =>
    let inner := c.environment depth
    { inner with
      stored? := fun path =>
        match c.table? path, c.view? path with
        | some t, _ => some ⟨t.schema, t.relation⟩
        | none, some v => do
          let r ← (← v.query.relation? inner []).renamed? v.columns
          return ⟨v.schema, r⟩
        | none, none => none }

def names (c : Catalog) : Environment := c.environment c.views.length

end Catalog

end RowFence.Database
