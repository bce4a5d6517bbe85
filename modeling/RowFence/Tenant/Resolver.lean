import RowFence.Http.Request
import RowFence.Policy
import RowFence.Tenant.Directory
import RowFence.Tenant.Host
import RowFence.Tenant.Source

/-! Which tenant a request belongs to: the first source that names one decides. -/

namespace RowFence

inductive TenantExtractor where
  | header | identity
  | subdomain (directory : TenantDirectory)
  deriving DecidableEq, Repr

namespace TenantExtractor

def source : TenantExtractor → TenantSource
  | header => .header
  | identity => .identity
  | subdomain _ => .subdomain

def ofHeader? (p : Policy) (r : Http.Request) : Option TenantId := do
  let value ← r.headers.text? p.tenantIdHeader
  (TenantId.ofText value).toOption

def ofIdentity? (r : Http.Request) : Option TenantId := do
  let identity ← r.identity?
  TenantId.ofInt? (← identity.tenant?)

def host? (r : Http.Request) : Option String := r.headers.text? "host" <|> r.uri.host?

def ofHost? (d : TenantDirectory) (r : Http.Request) : Option TenantId := do
  let name ← hostName? (← host? r).toList
  d.lookup (String.ofList (← subdomain? name))

def extract? (p : Policy) (r : Http.Request) : TenantExtractor → Option TenantId
  | header => ofHeader? p r
  | identity => ofIdentity? r
  | subdomain d => ofHost? d r

end TenantExtractor

structure ResolvedTenant where
  tenant? : Option TenantId
  source? : Option TenantSource
  all : List (TenantSource × TenantId)
  deriving DecidableEq, Repr

namespace ResolvedTenant

def isResolved (r : ResolvedTenant) : Bool := r.tenant?.isSome

def isDefault (r : ResolvedTenant) : Bool := r.source? == some .default

def hasConflict (r : ResolvedTenant) : Bool :=
  match r.all with
  | [] => false
  | (_, t) :: rest => rest.any (·.2 != t)

end ResolvedTenant

structure TenantResolver where
  extractors : List TenantExtractor
  deriving DecidableEq, Repr

namespace TenantResolver

def ofPolicy (p : Policy) (d : TenantDirectory) : TenantResolver :=
  ⟨(if p.headerEnabled then [.header] else []) ++ [.identity]
    ++ (if p.subdomainEnabled then [.subdomain d] else [])⟩

def usual : TenantResolver := ofPolicy .usual {}

def sources (r : TenantResolver) : List TenantSource := r.extractors.map (·.source)

def described (r : TenantResolver) : String :=
  "TenantResolver \x7b sources: [" ++ ", ".intercalate (r.sources.map (·.title)) ++ "] \x7d"

/-- Without any source, a request belongs to the default tenant, unless a tenant is required. -/
def resolve (r : TenantResolver) (p : Policy) (request : Http.Request) : ResolvedTenant :=
  let all := r.extractors.filterMap fun e => (e.extract? p request).map fun t => (e.source, t)
  match all with
  | (source, t) :: _ => ⟨some t, some source, all⟩
  | [] => if p.required then ⟨none, none, []⟩ else ⟨some p.defaultTenant, some .default, []⟩

end TenantResolver

end RowFence
