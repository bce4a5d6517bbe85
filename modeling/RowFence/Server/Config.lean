import RowFence.Policy.Load

/-! The settings of the server. Those on isolation come before what the configuration file says. -/

namespace RowFence

structure ServerConfig where
  portNumber : Nat := 8080
  host : String := "127.0.0.1"
  logLevel : String := "info"
  requestTimeout : Nat := 30
  corsEnabled : Bool := true
  corsOrigins : String := "*"
  corsMethods : String := "GET,POST,PUT,PATCH,DELETE,OPTIONS"
  corsHeaders : String := "Content-Type,Authorization,Accept,X-Tenant-Id"
  requestIdsEnabled : Bool := true
  isolationFile? : Option String := none
  tenantEnabled? : Option Bool := none
  tenantRequired? : Option Bool := none
  defaultTenantId? : Option Int := none
  tenantIdHeader? : Option String := none
  subdomainEnabled? : Option Bool := none
  dialect? : Option Sql.Dialect := none
  excludedTables? : Option (List String) := none
  excludedPaths? : Option (List String) := none
  databaseUrl? : Option String := none
  deriving DecidableEq, Repr

inductive ServerFault where
  | portNumber
  | requestTimeout
  | defaultTenant
  | noFile (path : String)
  | isolation (e : ConfigError)
  deriving DecidableEq, Repr

def ServerFault.message : ServerFault → String
  | portNumber => "Port cannot be 0"
  | requestTimeout => "Request timeout cannot be 0"
  | defaultTenant => "Default tenant id must be a positive integer"
  | noFile path => "Isolation config file not found: " ++ path
  | isolation e => e.message

def trimmedTexts (texts : List String) : List String := (texts.map Text.trim).filter (· != "")

namespace ServerConfig

/-- Settings to try things out with: any free number for the socket, scoping on, all else off. -/
def trial : ServerConfig where
  portNumber := 0
  logLevel := "debug"
  requestTimeout := 5
  corsEnabled := false
  corsMethods := "*"
  corsHeaders := "*"
  requestIdsEnabled := false
  tenantEnabled? := some true

def socketAddress (c : ServerConfig) : String := c.host ++ ":" ++ toString c.portNumber

def adjust (c : ServerConfig) (i : IsolationConfig) : IsolationConfig := { i with
  enabled := c.tenantEnabled?.getD i.enabled
  required := c.tenantRequired?.getD i.required
  defaultTenantId := c.defaultTenantId?.getD i.defaultTenantId
  tenantIdHeader := c.tenantIdHeader?.getD i.tenantIdHeader
  subdomainEnabled := c.subdomainEnabled?.getD i.subdomainEnabled
  dialect := c.dialect?.getD i.dialect
  excludedTables := (c.excludedTables?.map trimmedTexts).getD i.excludedTables
  excludedPaths := (c.excludedPaths?.map trimmedTexts).getD i.excludedPaths }

def isolation (c : ServerConfig) (files : Files) : Except ConfigError IsolationConfig :=
  match c.isolationFile? with
  | some path => c.adjust <$> IsolationConfig.ofFile files path
  | none => .ok (c.adjust {})

def policy (c : ServerConfig) (files : Files) : Except ConfigError Policy := do
  (← c.isolation files).toPolicy

def plainFaults (c : ServerConfig) (files : Files) : List ServerFault :=
  (if c.portNumber = 0 then [.portNumber] else [])
    ++ (if c.requestTimeout = 0 then [.requestTimeout] else [])
    ++ (if c.defaultTenantId?.any (· ≤ 0) then [.defaultTenant] else [])
    ++ ((c.isolationFile?.filter (!files.isFile ·)).map ServerFault.noFile).toList

def faults (c : ServerConfig) (files : Files) : List ServerFault :=
  match c.plainFaults files, c.policy files with
  | [], .error e => [.isolation e]
  | faults, _ => faults

end ServerConfig

end RowFence
