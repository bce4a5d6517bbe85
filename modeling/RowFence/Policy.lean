import RowFence.Policy.Config
import RowFence.Tenant.Id

/-! The rules of tenant isolation, built once from a configuration that is checked field by
field. -/

namespace RowFence

structure Policy where
  enabled : Bool
  required : Bool
  defaultTenant : TenantId
  tenantIdHeader : String
  headerEnabled : Bool
  subdomainEnabled : Bool
  tenantColumn : String
  excludedTables : List TableName
  excludedPaths : List PathPattern
  dialect : Sql.Dialect
  onParseFailure : ParseFailure
  deriving DecidableEq, Repr

inductive PolicyError where
  | defaultTenant (value : Int)
  | tenantColumn (column : String)
  | headerName (header : String)
  | pathPattern (e : PathPattern.Invalid)
  deriving DecidableEq, Repr

def PolicyError.message : PolicyError → String
  | .defaultTenant value =>
    "invalid default tenant id " ++ toString value ++ " (expected a positive integer)"
  | .tenantColumn column => "invalid tenant column " ++ Text.quote column
  | .headerName header => "invalid tenant id header " ++ Text.quote header
  | .pathPattern e => e.message

def isPlainIdentifier (s : String) : Bool :=
  match s.toList with
  | [] => false
  | c :: cs => (c.isAlpha || c = '_') && cs.all fun c => c.isAlphanum || c = '_'

def isHeaderName (cs : List Char) : Bool :=
  !cs.isEmpty && cs.all fun c => c.isAlphanum || c = '-' || c = '_'

def isBlankText (s : String) : Bool := s.toList.all Text.isBlank

namespace Policy

def patterns (paths : List String) : Except PathPattern.Invalid (List PathPattern) :=
  (paths.filter (!isBlankText ·)).mapM PathPattern.ofText

def excludedNames (tables : List String) : List TableName :=
  (tables.map TableName.ofReference).filter (·.text != "")

def ofConfig (c : IsolationConfig) : Except PolicyError Policy := do
  let some defaultTenant := TenantId.ofInt? c.defaultTenantId
    | throw (.defaultTenant c.defaultTenantId)
  if !isPlainIdentifier c.tenantColumn then throw (.tenantColumn c.tenantColumn)
  let header := Text.trimChars c.tenantIdHeader.toList
  if !isHeaderName header then throw (.headerName c.tenantIdHeader)
  let excludedPaths ← (patterns c.excludedPaths).mapError .pathPattern
  return {
    enabled := c.enabled
    required := c.required
    defaultTenant
    tenantIdHeader := String.ofList header
    headerEnabled := c.headerEnabled
    subdomainEnabled := c.subdomainEnabled
    tenantColumn := c.tenantColumn
    excludedTables := excludedNames c.excludedTables
    excludedPaths
    dialect := c.dialect
    onParseFailure := c.onParseFailure }

def usual : Policy where
  enabled := false
  required := true
  defaultTenant := .one
  tenantIdHeader := "X-Tenant-Id"
  headerEnabled := true
  subdomainEnabled := false
  tenantColumn := "tenant_id"
  excludedTables := TableName.builtin.map TableName.mk
  excludedPaths :=
    [.exact "/api/auth/user/login", .exact "/api/auth/user/register", .under "/api/auth/oauth",
      .under "/api/auth/token", .under "/api/auth/admin", .under "/api/public", .exact "/health",
      .under "/actuator"]
  dialect := .mysql
  onParseFailure := .failOpen

def usualEnabled : Policy := { usual with enabled := true }

def withDialect (p : Policy) (d : Sql.Dialect) : Policy := { p with dialect := d }

def withParseFailure (p : Policy) (mode : ParseFailure) : Policy := { p with onParseFailure := mode }

def withExcludedTables (p : Policy) (tables : List String) : Policy :=
  { p with excludedTables := p.excludedTables ++ tables.map TableName.ofReference }

def excludesName (p : Policy) (t : TableName) : Bool := t.isBuiltin || p.excludedTables.contains t

/-- Whether a table, as it is referred to in a statement, carries no tenant column. -/
def excludesTable (p : Policy) (reference : String) : Bool :=
  p.excludesName (.ofReference reference)

def excludesPath (p : Policy) (path : String) : Bool := p.excludedPaths.any (·.matchesPath path)

end Policy

end RowFence
