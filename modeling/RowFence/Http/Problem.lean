import RowFence.Policy.Load
import RowFence.Scope.Outcome

/-! Why a request is refused: a status, and a JSON body with a code and a message. -/

namespace RowFence

inductive Problem where
  | tenantRequired (header : String)
  | invalidTenant (message : String)
  | badRequest (message : String)
  | unprocessable (message : String)
  | unavailable (message : String)
  | internal (message : String)
  deriving DecidableEq, Repr

namespace Problem

def status : Problem → Nat
  | tenantRequired _ | invalidTenant _ | badRequest _ => 400
  | unprocessable _ => 422
  | unavailable _ => 503
  | internal _ => 500

def code : Problem → String
  | tenantRequired _ => "tenant-required"
  | invalidTenant _ => "invalid-tenant"
  | badRequest _ => "invalid"
  | unprocessable _ => "unprocessable"
  | unavailable _ => "unavailable"
  | internal _ => "exception"

def message : Problem → String
  | tenantRequired header =>
    "Tenant could not be resolved; send a positive tenant id in the " ++ header ++ " header"
  | invalidTenant m | badRequest m | unprocessable m | unavailable m | internal m => m

def summary : Problem → String
  | tenantRequired header =>
    "Tenant required: no tenant in " ++ header ++ " header or credentials"
  | invalidTenant m => "Invalid tenant: " ++ m
  | badRequest m => "Bad request: " ++ m
  | unprocessable m => "Unprocessable entity: " ++ m
  | unavailable m => "Service unavailable: " ++ m
  | internal m => "Internal error: " ++ m

def ofTenant (e : TenantId.Invalid) : Problem := invalidTenant e.message

def ofRefusal (e : Scope.Refusal) : Problem := unprocessable e.message

def ofConfig (e : ConfigError) : Problem := internal e.message

/-- A statement that may write was given to a database that may only be read. -/
def ofReadOnly : Problem := internal "sqlite error: Query is not read-only"

end Problem

end RowFence
