/-! Where the tenant of a request is taken from. -/

namespace RowFence

inductive TenantSource where
  | header | identity | subdomain | default
  deriving DecidableEq, Repr

namespace TenantSource

def all : List TenantSource := [header, identity, subdomain, default]

def name : TenantSource → String
  | header => "header"
  | identity => "identity"
  | subdomain => "subdomain"
  | default => "default"

def title : TenantSource → String
  | header => "Header"
  | identity => "Identity"
  | subdomain => "Subdomain"
  | default => "Default"

def ofName? (s : String) : Option TenantSource := all.find? (·.name == s)

/-- The higher, the more a source is trusted. -/
def priority : TenantSource → Nat
  | header => 4
  | identity => 3
  | subdomain => 2
  | default => 1

def isDefault (s : TenantSource) : Bool := s == default

/-- Sorts by priority, the lowest first. Equals keep their order. -/
def ascending (sources : List TenantSource) : List TenantSource :=
  sources.mergeSort fun a b => a.priority ≤ b.priority

def highest? (sources : List TenantSource) : Option TenantSource := (ascending sources).getLast?

end TenantSource

end RowFence
