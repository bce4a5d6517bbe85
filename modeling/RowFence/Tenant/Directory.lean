import RowFence.Tenant.Id

/-! Directories of tenants by code. A code is the same with blanks around it and in the other
letter case. -/

namespace RowFence

def canonicalCode (code : String) : String :=
  .ofList ((Text.trimChars code.toList).map Char.toLower)

structure TenantDirectory where
  entries : List (String × TenantId) := []
  deriving DecidableEq, Repr

namespace TenantDirectory

def lookup (d : TenantDirectory) (code : String) : Option TenantId :=
  d.entries.lookup (canonicalCode code)

def erase (d : TenantDirectory) (code : String) : TenantDirectory :=
  ⟨d.entries.filter (·.1 != canonicalCode code)⟩

def insert (d : TenantDirectory) (code : String) (t : TenantId) : TenantDirectory :=
  ⟨(canonicalCode code, t) :: (d.erase code).entries⟩

def ofList (codes : List (String × TenantId)) : TenantDirectory :=
  codes.foldl (fun d (code, t) => d.insert code t) {}

def remove (d : TenantDirectory) (code : String) : Option TenantId × TenantDirectory :=
  (d.lookup code, d.erase code)

def size (d : TenantDirectory) : Nat := d.entries.length

def isEmpty (d : TenantDirectory) : Bool := d.entries.isEmpty

end TenantDirectory

end RowFence
