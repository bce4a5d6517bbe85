import RowFence.Tenant.Id

/-! A context holds the tenant of a unit of work. It is a handle: its copies share what it holds.
A scope makes a context the current one, and leaves it empty when it ends. -/

namespace RowFence

structure Context where
  index : Nat
  deriving DecidableEq, Repr

/-- What each context holds, and the contexts of the open scopes, the innermost first. -/
structure Contexts where
  held : List (Option TenantId) := []
  scopes : List Context := []
  deriving DecidableEq, Repr

namespace Contexts

def tenant? (s : Contexts) (c : Context) : Option TenantId := s.held[c.index]?.join

def create (s : Contexts) (tenant? : Option TenantId) : Context × Contexts :=
  (⟨s.held.length⟩, { s with held := s.held ++ [tenant?] })

def put (s : Contexts) (c : Context) (tenant? : Option TenantId) : Contexts :=
  { s with held := s.held.set c.index tenant? }

def set (s : Contexts) (c : Context) (t : TenantId) : Contexts := s.put c (some t)

def clear (s : Contexts) (c : Context) : Contexts := s.put c none

def enter (s : Contexts) (c : Context) : Contexts := { s with scopes := c :: s.scopes }

def leave (s : Contexts) : Contexts :=
  match s.scopes with
  | [] => s
  | c :: scopes => { s.clear c with scopes }

def current? (s : Contexts) : Option Context := s.scopes.head?

def currentTenant? (s : Contexts) : Option TenantId := s.current?.bind s.tenant?

end Contexts

end RowFence
