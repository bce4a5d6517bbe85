import RowFence.Database.Object
import RowFence.Database.Reading.Schema

/-! What statements do to a catalog. There is no effect of a statement that a database refuses. -/

namespace RowFence.Database

namespace Catalog

def statistics : List Table :=
  [{ name := "sqlite_stat1", columns := ["tbl", "idx", "stat"] },
    { name := "sqlite_stat4", columns := ["tbl", "idx", "neq", "nlt", "ndlt", "sample"] }]

def analyze? (c : Catalog) (path? : Option Path) : Option Effect :=
  let known := path?.all fun path =>
    (path.schema?.isNone && hasName c.schemas path.name)
      || (c.table? path).isSome || (c.index? path).isSome
  if !known then none
  else if (c.table? ⟨none, "sqlite_stat1"⟩).isSome then some ⟨c, false⟩
  else some ⟨statistics.foldl withTable c, false⟩

def reindex? (c : Catalog) (path? : Option Path) : Option Effect :=
  let known := path?.all fun path =>
    (path.schema?.isNone && hasName Reading.collations path.name)
      || (c.usersTable? path).isSome || (c.index? path).isSome
  if known then some ⟨c, false⟩ else none

def shownSettings : List String :=
  ["application_id", "auto_vacuum", "automatic_index", "busy_timeout", "cache_size", "cache_spill",
    "cell_size_check", "checkpoint_fullfsync", "collation_list", "compile_options", "count_changes",
    "data_version", "database_list", "defer_foreign_keys", "encoding", "foreign_keys",
    "freelist_count", "full_column_names", "fullfsync", "function_list", "hard_heap_limit",
    "ignore_check_constraints", "integrity_check", "journal_mode", "journal_size_limit",
    "legacy_alter_table", "locking_mode", "max_page_count", "module_list", "page_count",
    "page_size", "pragma_list", "query_only", "quick_check", "read_uncommitted",
    "recursive_triggers", "reverse_unordered_selects", "schema_version", "secure_delete",
    "short_column_names", "soft_heap_limit", "synchronous", "table_list", "temp_store", "threads",
    "trusted_schema", "user_version", "wal_autocheckpoint", "wal_checkpoint", "writable_schema",
    "analysis_limit"]

def echoedSettings : List String :=
  ["analysis_limit", "busy_timeout", "data_version", "freelist_count", "hard_heap_limit",
    "integrity_check", "journal_mode", "journal_size_limit", "locking_mode", "max_page_count",
    "page_count", "quick_check", "secure_delete", "soft_heap_limit", "table_info", "table_list",
    "table_xinfo", "threads", "wal_autocheckpoint", "wal_checkpoint"]

def pragma? (c : Catalog) (path : Path) (isGiven : Bool) : Option Effect :=
  if !path.schema?.all (hasName c.schemas) then none
  else some ⟨c, hasName (if isGiven then echoedSettings else shownSettings) path.name⟩

/-- What a statement does to a catalog, apart from what it does to transactions. -/
def effect? (c : Catalog) : Statement → Option Effect
  | .query q => do
    let r ← q.relation? c.names []
    return ⟨c, r.isFilled⟩
  | .change change => c.change? change
  | .createTable temporary ifNew path body => c.createTable? temporary ifNew path body
  | .createView temporary ifNew path columns q => c.createView? temporary ifNew path columns q
  | .createIndex ifNew path table columns condition =>
    c.createIndex? ifNew path table columns condition
  | .createTrigger temporary ifNew path d => c.createTrigger? temporary ifNew path d
  | .createVirtual ifNew path module columns => c.createVirtual? ifNew path module columns
  | .drop kind ifThere path => c.drop? kind ifThere path
  | .alter path change => c.alter? path change
  | .vacuum schema? => if schema?.all (hasName c.schemas) then some ⟨c, false⟩ else none
  | .analyze path? => c.analyze? path?
  | .reindex path? => c.reindex? path?
  | .pragma path isGiven => c.pragma? path isGiven
  | .explain inner => (c.effect? inner).map fun _ => ⟨c, true⟩
  | _ => some ⟨c, false⟩

end Catalog

end RowFence.Database
