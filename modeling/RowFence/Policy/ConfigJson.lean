import RowFence.Policy.Config
import RowFence.Json.Writer

/-! Configurations as JSON: an object, or a list of the values in the order of the fields. What is
left out has its usual value. -/

namespace RowFence

def Sql.Dialect.choices : List (String × Sql.Dialect) := Sql.Dialect.all.map fun d => (d.name, d)

def ParseFailure.choices : List (String × ParseFailure) :=
  [.failOpen, .failClosed].map fun m => (m.name, m)

def TenantId.reader : Json.Reader TenantId := do
  match TenantId.ofInt (← .integer "i64" isInt64) with
  | .ok t => return t
  | .error e => .refuse (.tenant e)

def TenantId.toJson (t : TenantId) : Json.Value := .int t.value

def Sql.Dialect.reader : Json.Reader Sql.Dialect := .variant Sql.Dialect.choices

namespace IsolationConfig

open Json Json.Reader

def fields : List (Member IsolationConfig) := [
  ⟨"enabled", false, fun c => return { c with enabled := ← bool }⟩,
  ⟨"required", false, fun c => return { c with required := ← bool }⟩,
  ⟨"default_tenant_id", false, fun c =>
    return { c with defaultTenantId := ← integer "i64" isInt64 }⟩,
  ⟨"tenant_id_header", false, fun c => return { c with tenantIdHeader := ← string }⟩,
  ⟨"header_enabled", false, fun c => return { c with headerEnabled := ← bool }⟩,
  ⟨"subdomain_enabled", false, fun c => return { c with subdomainEnabled := ← bool }⟩,
  ⟨"tenant_column", false, fun c => return { c with tenantColumn := ← string }⟩,
  ⟨"excluded_tables", false, fun c => return { c with excludedTables := ← list string }⟩,
  ⟨"excluded_paths", false, fun c => return { c with excludedPaths := ← list string }⟩,
  ⟨"dialect", false, fun c => return { c with dialect := ← Sql.Dialect.reader }⟩,
  ⟨"on_parse_failure", false, fun c =>
    return { c with onParseFailure := ← variant ParseFailure.choices }⟩]

def reader : Reader IsolationConfig := record "struct IsolationConfig" fields {}

def ofJson (text : String) : Except Fault IsolationConfig := reader.run text

def toJson (c : IsolationConfig) : Value := .object [
  ("enabled", .bool c.enabled),
  ("required", .bool c.required),
  ("default_tenant_id", .int c.defaultTenantId),
  ("tenant_id_header", .string c.tenantIdHeader),
  ("header_enabled", .bool c.headerEnabled),
  ("subdomain_enabled", .bool c.subdomainEnabled),
  ("tenant_column", .string c.tenantColumn),
  ("excluded_tables", .strings c.excludedTables),
  ("excluded_paths", .strings c.excludedPaths),
  ("dialect", .string c.dialect.name),
  ("on_parse_failure", .string c.onParseFailure.name)]

end IsolationConfig

end RowFence
