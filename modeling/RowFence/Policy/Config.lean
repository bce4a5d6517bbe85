import RowFence.Policy.TableName
import RowFence.Policy.PathPattern
import RowFence.Sql.Dialect

/-! The settings of tenant isolation, as they are written in a configuration. -/

namespace RowFence

/-- What becomes of a statement that cannot be parsed: it runs as it is, or it is refused. -/
inductive ParseFailure where
  | failOpen | failClosed
  deriving DecidableEq, Repr, Inhabited

def ParseFailure.name : ParseFailure → String
  | failOpen => "fail_open"
  | failClosed => "fail_closed"

def isInt64 (i : Int) : Bool := -(Nat.pow 2 63) ≤ i && i < Nat.pow 2 63

structure IsolationConfig where
  enabled : Bool := false
  required : Bool := true
  defaultTenantId : Int := 1
  tenantIdHeader : String := "X-Tenant-Id"
  headerEnabled : Bool := true
  subdomainEnabled : Bool := false
  tenantColumn : String := "tenant_id"
  excludedTables : List String := TableName.builtin
  excludedPaths : List String :=
    ["/api/auth/user/login", "/api/auth/user/register", "/api/auth/oauth/**",
      "/api/auth/token/**", "/api/auth/admin/**", "/api/public/**", "/health", "/actuator/**"]
  dialect : Sql.Dialect := .mysql
  onParseFailure : ParseFailure := .failOpen
  deriving DecidableEq, Repr

end RowFence
