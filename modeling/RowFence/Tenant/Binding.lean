import RowFence.Http.Problem
import RowFence.Tenant.Context
import RowFence.Tenant.Resolver

/-! The tenant that a request is bound to. -/

namespace RowFence

structure TenantBinding where
  context : Context
  tenant : TenantId
  source : TenantSource
  deriving DecidableEq, Repr

namespace TenantBinding

def create (s : Contexts) (tenant : TenantId) (source : TenantSource) : TenantBinding × Contexts :=
  let (context, s) := s.create (some tenant)
  (⟨context, tenant, source⟩, s)

/-- The binding of a request that has a context and a resolved tenant. What the context holds
counts before what was resolved. -/
def ofRequest? (s : Contexts) (context? : Option Context) (resolved? : Option ResolvedTenant) :
    Option TenantBinding := do
  let context ← context?
  let resolved ← resolved?
  let tenant ← s.tenant? context <|> resolved.tenant?
  return ⟨context, tenant, resolved.source?.getD .default⟩

def ofRequest (s : Contexts) (context? : Option Context) (resolved? : Option ResolvedTenant) :
    Except Problem TenantBinding :=
  match ofRequest? s context? resolved? with
  | some b => .ok b
  | none => .error (.badRequest "No tenant is bound to this request")

end TenantBinding

end RowFence
