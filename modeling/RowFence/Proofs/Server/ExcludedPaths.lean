import Mathlib.Data.List.Infix
import RowFence.Proofs.Server.Boundary

/-! Which paths need no tenant. A pattern with a wildcard is meant for a path and all that lies under it,
but paths that only begin with the same letters are let through with them. -/

namespace RowFence

namespace PathPattern

/-- The paths that a pattern is written for: one path, or a path and those that go on behind it with a
slash. -/
def Covers : PathPattern → String → Prop
  | exact path, p => p = path
  | under start, p => p = start ∨ (start ++ "/").toList <+: p.toList

instance (pattern : PathPattern) (p : String) : Decidable (pattern.Covers p) :=
  match pattern with
  | exact path => inferInstanceAs (Decidable (p = path))
  | under start => inferInstanceAs (Decidable (p = start ∨ (start ++ "/").toList <+: p.toList))

/-- A path that goes on where the path of a wildcard ends, but within its last segment. -/
def IsOverrun : PathPattern → String → Prop
  | exact _, _ => False
  | under start, p => ∃ c rest, c ≠ '/' ∧ p.toList = start.toList ++ c :: rest

lemma matchesPath_exact_iff (path p : String) : (exact path).matchesPath p = true ↔ p = path :=
  decide_eq_true_iff

lemma matchesPath_under_iff (start p : String) :
    (under start).matchesPath p = true ↔ ∃ rest, p.toList = start.toList ++ rest := by
  rw [matchesPath, List.isPrefixOf_iff_prefix]
  exact ⟨fun ⟨rest, h⟩ => ⟨rest, h.symm⟩, fun ⟨rest, h⟩ => ⟨rest, h.symm⟩⟩

lemma covers_under_iff (start p : String) : (under start).Covers p ↔
    p.toList = start.toList ∨ ∃ rest, p.toList = start.toList ++ '/' :: rest := by
  have hslash : (start ++ "/").toList = start.toList ++ ['/'] := String.toList_append
  rw [Covers, hslash, ← String.toList_inj]
  refine or_congr_right ⟨fun ⟨rest, h⟩ => ⟨rest, ?_⟩, fun ⟨rest, h⟩ => ⟨rest, ?_⟩⟩
  · rw [← h, List.append_assoc, List.singleton_append]
  · rw [h, List.append_assoc, List.singleton_append]

/-- What a pattern matches beyond the paths that it is written for. -/
lemma matchesPath_iff (pattern : PathPattern) (p : String) :
    pattern.matchesPath p = true ↔ pattern.Covers p ∨ pattern.IsOverrun p := by
  cases pattern with
  | exact path => rw [matchesPath_exact_iff, Covers, IsOverrun, or_false]
  | under start =>
    rw [matchesPath_under_iff, covers_under_iff, IsOverrun]
    constructor
    · rintro ⟨rest, h⟩
      cases rest with
      | nil => exact .inl (.inl (h.trans (List.append_nil _)))
      | cons c rest =>
        by_cases hc : c = '/'
        · exact .inl (.inr ⟨rest, hc ▸ h⟩)
        · exact .inr ⟨c, rest, hc, h⟩
    · rintro ((h | ⟨rest, h⟩) | ⟨c, rest, -, h⟩)
      · exact ⟨[], h.trans (List.append_nil _).symm⟩
      · exact ⟨_, h⟩
      · exact ⟨_, h⟩

end PathPattern

namespace Policy

/-- A path is let through just in case a pattern is written for it, or it overruns one with a wildcard.
So the patterns mean what they are written for on all paths that overrun none of them, and on those
that another pattern is written for. -/
theorem excludesPath_iff_covers (p : Policy) (path : String) :
    (p.excludesPath path = true ↔
        (∃ pattern ∈ p.excludedPaths, pattern.Covers path) ∨
          ∃ pattern ∈ p.excludedPaths, pattern.IsOverrun path) ∧
      ((p.excludesPath path = true ↔ ∃ pattern ∈ p.excludedPaths, pattern.Covers path) ↔
        ((∃ pattern ∈ p.excludedPaths, pattern.IsOverrun path) →
          ∃ pattern ∈ p.excludedPaths, pattern.Covers path)) := by
  have hmatches : p.excludesPath path = true ↔
      (∃ pattern ∈ p.excludedPaths, pattern.Covers path) ∨
        ∃ pattern ∈ p.excludedPaths, pattern.IsOverrun path := by
    rw [excludesPath, List.any_eq_true]
    simp only [PathPattern.matchesPath_iff, and_or_left, exists_or]
  refine ⟨hmatches, ?_⟩
  rw [hmatches]
  exact ⟨fun h hoverrun => h.mp (.inr hoverrun), fun h => ⟨Or.rec id h, .inl⟩⟩

end Policy

namespace App

/-- No pattern is written for this path, which begins like `/api/public`. A request for it gets past the
boundary without a tenant. -/
theorem boundary_publicity :
    plainApp.policy.enabled = true ∧ plainApp.policy.required = true ∧
      (¬ ∃ pattern ∈ plainApp.policy.excludedPaths, pattern.Covers "/api/publicity") ∧
      plainApp.policy.excludesPath "/api/publicity" = true ∧
      ∀ next, plainApp.boundary next (plainRequest "GET" "/api/publicity") =
        next {} (plainRequest "GET" "/api/publicity") := by
  have hpath : plainApp.policy.excludesPath "/api/publicity" = true := by decide
  exact ⟨rfl, rfl, by decide, hpath, fun next => boundary_of_unbound _ _ next (.inr hpath)⟩

end App

end RowFence
