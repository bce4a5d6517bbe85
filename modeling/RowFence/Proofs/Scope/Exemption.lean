import RowFence.Proofs.Policy.TableName
import RowFence.Scope

/-! Which tables need no predicate. A name is looked up by what remains of its last identifier once
quotes are left out and all up to the last period is cut off. That is the identifier itself just in
case it has no period and no quote in it. -/

namespace RowFence

namespace Scope

open Sql

/-- What a statement is scoped by where common tables with these names are visible. -/
def viewWith (p : Policy) (tenant : TenantId) (aliases : List Ident) : View :=
  ⟨p, tenant, aliases.map fun a => .ofReference a.value⟩

lemma predicates_eq_nil_iff (v : View) (name : Name) (alias? : Option TableAlias) :
    v.predicates name alias? = [] ↔ v.exempts name = true := by
  unfold View.predicates
  split
  · rename_i h
    exact iff_of_true rfl h
  · rename_i h
    exact iff_of_false (List.cons_ne_nil _ _) h

lemma exempts_viewWith (p : Policy) (tenant : TenantId) (aliases : List Ident) (parts : Name)
    {last : Ident} (hquote : last.quote.all TableName.isQuote = true) :
    (viewWith p tenant aliases).exempts (parts ++ [last]) = true ↔
      p.excludesName (.ofReference last.value) = true ∨
        parts = [] ∧ ∃ a ∈ aliases, TableName.ofReference a.value = .ofReference last.value := by
  have hparts : (parts ++ [last]).length = 1 ↔ parts = [] := by
    rw [List.length_append, List.length_singleton, Nat.add_eq_right, List.length_eq_zero_iff]
  rw [View.exempts, View.hides, Policy.excludesTable, TableName.ofReference_spelling_concat parts hquote,
    Bool.or_eq_true, Bool.and_eq_true, decide_eq_true_eq, hparts, viewWith, List.contains_iff_mem,
    List.mem_map]

/-- A table needs no predicate just in case it is looked up by the name of a table that is excluded,
or, with one part, by that of a common table that is visible. If there is no period and no quote in
the identifiers, these names are the identifiers themselves, without regard to letter case and to
the blanks around them. -/
theorem predicates_eq_nil_iff_named (p : Policy) (tenant : TenantId) (aliases : List Ident)
    (parts : Name) (last : Ident) (alias? : Option TableAlias)
    (hquote : last.quote.all TableName.isQuote = true) :
    let spared := (viewWith p tenant aliases).predicates (parts ++ [last]) alias? = []
    (spared ↔ p.excludesName (.ofReference last.value) = true ∨
        parts = [] ∧ ∃ a ∈ aliases, TableName.ofReference a.value = .ofReference last.value) ∧
      (last.value.toList.all TableName.isBare = true →
        (parts = [] → ∀ a ∈ aliases, a.value.toList.all TableName.isBare = true) →
        (spared ↔ p.excludesName ⟨foldName last.value⟩ = true ∨
          parts = [] ∧ ∃ a ∈ aliases, foldName a.value = foldName last.value)) := by
  intro spared
  have hspared := (predicates_eq_nil_iff (viewWith p tenant aliases) (parts ++ [last]) alias?).trans
    (exempts_viewWith p tenant aliases parts hquote)
  refine ⟨hspared, fun hlast haliases => hspared.trans ?_⟩
  rw [(TableName.ofReference_eq_folded_iff last.value).mpr hlast]
  refine or_congr_right (and_congr_right fun hparts => exists_congr fun a =>
    and_congr_right fun ha => ?_)
  rw [(TableName.ofReference_eq_folded_iff a.value).mpr (haliases hparts a ha), TableName.mk.injEq]

/-- A qualified name whose schema and table are quoted, where another common table is visible. -/
theorem predicates_eq_nil_iff_qualified :
    (viewWith .usualEnabled .one [⟨"s2_tenant", none⟩]).predicates
        [⟨"Shop.1", some '`'⟩, ⟨" S2_Tenant", some '`'⟩] none = [] ∧
      (viewWith .usualEnabled .one [⟨"orders", none⟩]).predicates
        [⟨"Shop.1", some '`'⟩, ⟨"orders", some '`'⟩] none ≠ [] :=
  ⟨((predicates_eq_nil_iff_named .usualEnabled .one [⟨"s2_tenant", none⟩] [⟨"Shop.1", some '`'⟩]
      ⟨" S2_Tenant", some '`'⟩ none (by decide)).2 (by decide) nofun).mpr (.inl (by decide)),
    mt ((predicates_eq_nil_iff_named .usualEnabled .one [⟨"orders", none⟩] [⟨"Shop.1", some '`'⟩]
      ⟨"orders", some '`'⟩ none (by decide)).2 (by decide) nofun).mp (by decide)⟩

/-- A table whose quoted name has a period in it is taken for one that is excluded, and a common
table with such a name for a table that is not. -/
theorem predicates_periods :
    (viewWith .usualEnabled .one []).predicates [⟨"x.s2_tenant", some '`'⟩] none = [] ∧
      Policy.usualEnabled.excludesName ⟨foldName "x.s2_tenant"⟩ = false ∧
      (viewWith .usualEnabled .one [⟨"x.orders", some '`'⟩]).predicates [⟨"orders", none⟩] none = [] ∧
      Policy.usualEnabled.excludesName ⟨foldName "orders"⟩ = false ∧
      foldName "x.orders" ≠ foldName "orders" :=
  ⟨(predicates_eq_nil_iff _ _ _).mpr (by decide), by decide,
    (predicates_eq_nil_iff _ _ _).mpr (by decide), by decide, by decide⟩

end Scope

end RowFence
