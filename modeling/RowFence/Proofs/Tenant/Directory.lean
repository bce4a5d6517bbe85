import Mathlib.Data.Finset.Card
import Mathlib.Tactic.Lemma
import RowFence.Tenant.Directory

/-! Directories of tenants as finite maps. All spellings of a code are one key, and what a key stands
for is what the last operation on it left. -/

namespace RowFence.TenantDirectory

inductive Operation where
  | insert (code : String) (t : TenantId)
  | remove (code : String)
  | lookup (code : String)
  deriving DecidableEq, Repr

namespace Operation

/-- What an operation answers, and the directory after it. -/
def run (d : TenantDirectory) : Operation → Option TenantId × TenantDirectory
  | insert code t => (none, d.insert code t)
  | remove code => d.remove code
  | lookup code => (d.lookup code, d)

end Operation

def after (d : TenantDirectory) (operations : List Operation) : TenantDirectory :=
  operations.foldl (fun d operation => (operation.run d).2) d

/-- No code is registered twice, and all are in canonical form. -/
structure IsMap (d : TenantDirectory) : Prop where
  nodup : (d.entries.map Prod.fst).Nodup
  canonical : ∀ e ∈ d.entries, ∃ code, canonicalCode code = e.1

section Steps

variable (d : TenantDirectory) (code : String) (t : TenantId)

variable {d}

lemma IsMap.empty : IsMap {} := ⟨List.nodup_nil, nofun⟩

lemma IsMap.erase (h : IsMap d) : IsMap (d.erase code) where
  nodup := h.nodup.sublist (List.filter_sublist.map Prod.fst)
  canonical e he := h.canonical e (List.mem_filter.mp he).1

lemma IsMap.insert (h : IsMap d) : IsMap (d.insert code t) where
  nodup := by
    refine List.nodup_cons.mpr ⟨fun hmem => ?_, (h.erase code).nodup⟩
    obtain ⟨e, he, hkey⟩ := List.mem_map.mp hmem
    exact bne_iff_ne.mp (List.mem_filter.mp he).2 hkey
  canonical e he := by
    obtain rfl | he := List.mem_cons.mp he
    · exact ⟨code, rfl⟩
    · exact (h.erase code).canonical e he

lemma IsMap.run (h : IsMap d) (operation : Operation) : IsMap (operation.run d).2 := by
  cases operation with
  | insert code t => exact h.insert code t
  | remove code => exact h.erase code
  | lookup code => exact h

end Steps

section Runs

lemma IsMap.after {d : TenantDirectory} (h : IsMap d) (operations : List Operation) :
    IsMap (d.after operations) := by
  induction operations generalizing d with
  | nil => exact h
  | cons operation operations ih => exact ih (h.run operation)

end Runs

section Keys

variable {d : TenantDirectory}

end Keys

end RowFence.TenantDirectory
