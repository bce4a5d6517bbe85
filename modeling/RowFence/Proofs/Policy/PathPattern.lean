import RowFence.Policy
import RowFence.Proofs.Text.Blank

/-! Path patterns are a path without stars, or such a path and the ending `/**`. A pattern is spelled
as it was written, without the blanks around it, and a policy has the patterns of its configuration
in their order. -/

namespace RowFence

namespace PathPattern

/-- The texts of path patterns: a slash first, and no star but the two of one last `/**`. -/
structure IsWritten (text : List Char) : Prop where
  slash : text.head? = some '/'
  stars : '*' ∉ text ∨ ∃ start, '*' ∉ start ∧ text = start ++ ['/', '*', '*']

lemma beforeWildcard?_append (start : List Char) :
    beforeWildcard? (start ++ ['/', '*', '*']) = some start := by
  have hsuffix : wildcardEnding.isSuffixOf (start ++ wildcardEnding) = true :=
    List.isSuffixOf_iff_suffix.mpr (List.suffix_append start wildcardEnding)
  change beforeWildcard? (start ++ wildcardEnding) = some start
  rw [beforeWildcard?, if_pos hsuffix, List.length_append, Nat.add_sub_cancel, List.take_left]

lemma beforeWildcard?_eq_some_iff {text start : List Char} :
    beforeWildcard? text = some start ↔ text = start ++ ['/', '*', '*'] := by
  constructor
  · intro h
    rw [beforeWildcard?] at h
    split at h
    · rename_i hsuffix
      obtain ⟨start', rfl⟩ := List.isSuffixOf_iff_suffix.mp hsuffix
      rw [List.length_append, Nat.add_sub_cancel, List.take_left, Option.some_inj] at h
      rw [h, wildcardEnding]
    · cases h
  · rintro rfl
    exact beforeWildcard?_append start

lemma toList_spelling_under (start : List Char) :
    (under (String.ofList start)).spelling.toList = start ++ ['/', '*', '*'] := by
  rw [spelling, String.toList_append, String.toList_ofList]
  rfl

lemma ofChars_of_isWritten {text : List Char} (h : IsWritten text) :
    ∃ p, ofChars text = .ok p ∧ p.spelling.toList = text := by
  have hslash : (text.head? != some '/') = false := by rw [h.slash, bne_self_eq_false]
  rw [ofChars, hslash, if_neg Bool.false_ne_true]
  cases hbefore : beforeWildcard? text with
  | some start =>
    obtain rfl := beforeWildcard?_eq_some_iff.mp hbefore
    have hstart : start.contains '*' = false := by
      rw [Bool.eq_false_iff, ne_eq, List.contains_iff_mem]
      obtain hstars | ⟨start', hstart', heq⟩ := h.stars
      · exact fun hmem => hstars (List.mem_append_left _ hmem)
      · rwa [List.append_cancel_right heq]
    simp only [hstart, Bool.false_eq_true, if_false]
    exact ⟨_, rfl, toList_spelling_under start⟩
  | none =>
    have hstars : text.contains '*' = false := by
      rw [Bool.eq_false_iff, ne_eq, List.contains_iff_mem]
      obtain hstars | ⟨start, -, rfl⟩ := h.stars
      · exact hstars
      · rw [beforeWildcard?_append] at hbefore
        cases hbefore
    simp only [hstars, Bool.false_eq_true, if_false]
    exact ⟨_, rfl, String.toList_ofList⟩

lemma isWritten_of_ofChars {text : List Char} {p : PathPattern} (h : ofChars text = .ok p) :
    IsWritten text := by
  rw [ofChars] at h
  split at h
  · cases h
  · rename_i hslash
    have hhead : text.head? = some '/' := by simpa using hslash
    split at h
    · rename_i start hbefore
      split at h
      · cases h
      · rename_i hstars
        exact ⟨hhead, .inr ⟨start, by simpa using hstars, beforeWildcard?_eq_some_iff.mp hbefore⟩⟩
    · split at h
      · cases h
      · rename_i hstars
        exact ⟨hhead, .inl (by simpa using hstars)⟩

lemma ofText_eq_ok_iff {s : String} {p : PathPattern} :
    ofText s = .ok p ↔ ofChars (Text.trimChars s.toList) = .ok p := by
  rw [ofText]
  cases ofChars (Text.trimChars s.toList) <;> simp

lemma ofText_trim (s : String) : ofText (Text.trim s) = ofText s := by
  rw [ofText, ofText, Text.trim, String.toList_ofList, Text.trimChars_trimChars]

lemma exists_ofText_iff (s : String) :
    (∃ p, ofText s = .ok p) ↔ IsWritten (Text.trim s).toList := by
  rw [Text.trim, String.toList_ofList]
  constructor
  · rintro ⟨p, hp⟩
    exact isWritten_of_ofChars (ofText_eq_ok_iff.mp hp)
  · intro h
    obtain ⟨p, hp, -⟩ := ofChars_of_isWritten h
    exact ⟨p, ofText_eq_ok_iff.mpr hp⟩

lemma spelling_of_ofText {s : String} {p : PathPattern} (h : ofText s = .ok p) :
    p.spelling = Text.trim s := by
  rw [ofText_eq_ok_iff] at h
  obtain ⟨p', hp', hspelling⟩ := ofChars_of_isWritten (isWritten_of_ofChars h)
  obtain rfl : p = p' := Except.ok.inj (h.symm.trans hp')
  rw [Text.trim, ← hspelling, String.ofList_toList]

lemma ofText_spelling {s : String} {p : PathPattern} (h : ofText s = .ok p) :
    ofText p.spelling = .ok p := by
  rw [spelling_of_ofText h, ofText_trim, h]

lemma eq_iff_trim_eq {s s' : String} {p p' : PathPattern} (h : ofText s = .ok p)
    (h' : ofText s' = .ok p') : p = p' ↔ Text.trim s = Text.trim s' := by
  constructor
  · rintro rfl
    rw [← spelling_of_ofText h, spelling_of_ofText h']
  · intro htrim
    rw [← ofText_trim, htrim, ofText_trim, h'] at h
    exact (Except.ok.inj h).symm

end PathPattern

namespace Policy

def nonblank (paths : List String) : List String := paths.filter (!isBlankText ·)

lemma mapM_eq_ok_iff {α β ε : Type} (f : α → Except ε β) (as : List α) (bs : List β) :
    as.mapM f = .ok bs ↔ as.map f = bs.map .ok := by
  induction as generalizing bs with
  | nil => cases bs <;> simp [pure, Except.pure]
  | cons a as ih =>
    rw [List.mapM_cons]
    cases ha : f a with
    | error e => cases bs <;> simp [ha, bind, Except.bind]
    | ok b =>
      cases has : as.mapM f with
      | error e =>
        have hrest (bs : List β) : as.map f ≠ bs.map .ok := by rw [ne_eq, ← ih, has]; simp
        cases bs <;> simp [ha, bind, Except.bind, hrest]
      | ok bs' =>
        have hrest (bs : List β) : bs' = bs ↔ as.map f = bs.map .ok := by
          rw [← ih, has, Except.ok.injEq]
        cases bs <;> simp [ha, bind, Except.bind, pure, Except.pure, hrest]

lemma exists_map_eq_map_ok_iff {α β ε : Type} (f : α → Except ε β) (as : List α) :
    (∃ bs : List β, as.map f = bs.map .ok) ↔ ∀ a ∈ as, ∃ b, f a = .ok b := by
  induction as with
  | nil => simp
  | cons a as ih =>
    rw [List.forall_mem_cons, ← ih]
    constructor
    · rintro ⟨_ | ⟨b, bs⟩, h⟩
      · cases h
      · exact ⟨⟨b, (List.cons.inj h).1⟩, bs, (List.cons.inj h).2⟩
    · rintro ⟨⟨b, hb⟩, bs, hbs⟩
      exact ⟨b :: bs, by rw [List.map_cons, List.map_cons, hb, hbs]⟩

/-- The excluded paths are read last, so that the rest of a configuration may be judged without
them. -/
lemma ofConfig_eq_bind (c : IsolationConfig) :
    ofConfig c = (ofConfig { c with excludedPaths := [] }).bind fun p =>
      ((patterns c.excludedPaths).mapError .pathPattern).bind fun ps =>
        .ok { p with excludedPaths := ps } := by
  simp only [ofConfig, bind, Except.bind, pure, Except.pure, throw, throwThe, MonadExceptOf.throw]
  cases TenantId.ofInt? c.defaultTenantId with
  | none => rfl
  | some id =>
    cases isPlainIdentifier c.tenantColumn with
    | false => rfl
    | true =>
      cases isHeaderName (Text.trimChars c.tenantIdHeader.toList) with
      | false => rfl
      | true => rfl

lemma ofConfig_eq_ok_iff {c : IsolationConfig} {p : Policy} :
    ofConfig c = .ok p ↔ ∃ rest, ofConfig { c with excludedPaths := [] } = .ok rest ∧
      (nonblank c.excludedPaths).map PathPattern.ofText = p.excludedPaths.map .ok ∧
      p = { rest with excludedPaths := p.excludedPaths } := by
  rw [ofConfig_eq_bind]
  cases ofConfig { c with excludedPaths := [] } with
  | error e => simp [Except.bind]
  | ok rest =>
    have hpatterns (ps : List PathPattern) : patterns c.excludedPaths = .ok ps ↔
        (nonblank c.excludedPaths).map PathPattern.ofText = ps.map .ok := mapM_eq_ok_iff _ _ ps
    simp only [← hpatterns, Except.ok.injEq, exists_eq_left']
    cases patterns c.excludedPaths with
    | error e => simp [Except.bind, Except.mapError]
    | ok ps =>
      simp only [Except.mapError, Except.bind, Except.ok.injEq]
      constructor
      · rintro rfl
        exact ⟨rfl, rfl⟩
      · rintro ⟨rfl, hp⟩
        exact hp.symm

lemma map_spelling_eq {paths : List String} {ps : List PathPattern}
    (h : paths.map PathPattern.ofText = ps.map .ok) :
    ps.map PathPattern.spelling = paths.map Text.trim := by
  induction paths generalizing ps with
  | nil => cases ps with
    | nil => rfl
    | cons p ps => cases h
  | cons path paths ih => cases ps with
    | nil => cases h
    | cons p ps =>
      obtain ⟨hp, hps⟩ := List.cons.inj h
      rw [List.map_cons, List.map_cons, PathPattern.spelling_of_ofText hp, ih hps]

lemma exists_ofConfig_iff (c : IsolationConfig) :
    (∃ p, ofConfig c = .ok p) ↔ (∃ rest, ofConfig { c with excludedPaths := [] } = .ok rest) ∧
      ∀ path ∈ nonblank c.excludedPaths, PathPattern.IsWritten (Text.trim path).toList := by
  simp only [← PathPattern.exists_ofText_iff, ← exists_map_eq_map_ok_iff PathPattern.ofText]
  constructor
  · rintro ⟨p, hp⟩
    obtain ⟨rest, hrest, hpaths, -⟩ := ofConfig_eq_ok_iff.mp hp
    exact ⟨⟨rest, hrest⟩, p.excludedPaths, hpaths⟩
  · rintro ⟨⟨rest, hrest⟩, ps, hps⟩
    exact ⟨{ rest with excludedPaths := ps }, ofConfig_eq_ok_iff.mpr ⟨rest, hrest, hps, rfl⟩⟩

/-- The texts that are read as patterns are those of the grammar. A pattern is spelled as it was
written, blanks aside, and its spelling is read as the same pattern, so that patterns differ just in
case their trimmed texts do. A policy has a pattern for each nonblank path of its configuration, in
their order, and no policy is made where one of those paths is not a pattern. -/
theorem patterns_spelled_as_written :
    (∀ s : String, (∃ p, PathPattern.ofText s = .ok p) ↔ PathPattern.IsWritten (Text.trim s).toList) ∧
    (∀ (s : String) (p : PathPattern), PathPattern.ofText s = .ok p →
      p.spelling = Text.trim s ∧ PathPattern.ofText p.spelling = .ok p ∧
      ∀ (s' : String) (p' : PathPattern), PathPattern.ofText s' = .ok p' →
        (p = p' ↔ Text.trim s = Text.trim s')) ∧
    ∀ c : IsolationConfig,
      ((∃ p, ofConfig c = .ok p) ↔ (∃ rest, ofConfig { c with excludedPaths := [] } = .ok rest) ∧
        ∀ path ∈ nonblank c.excludedPaths, PathPattern.IsWritten (Text.trim path).toList) ∧
      ∀ p, ofConfig c = .ok p →
        (nonblank c.excludedPaths).map PathPattern.ofText = p.excludedPaths.map .ok ∧
        p.excludedPaths.map PathPattern.spelling = (nonblank c.excludedPaths).map Text.trim := by
  refine ⟨PathPattern.exists_ofText_iff, fun s p hp => ?_, fun c => ⟨exists_ofConfig_iff c, fun p hp => ?_⟩⟩
  · exact ⟨PathPattern.spelling_of_ofText hp, PathPattern.ofText_spelling hp,
      fun s' p' hp' => PathPattern.eq_iff_trim_eq hp hp'⟩
  · obtain ⟨-, -, hpaths, -⟩ := ofConfig_eq_ok_iff.mp hp
    exact ⟨hpaths, map_spelling_eq hpaths⟩

theorem patterns_spelled_as_written_api :
    let c : IsolationConfig := { excludedPaths := [" /api/v 1/**\n", "  ", "/"] }
    (PathPattern.ofText " /api/v 1/**\n" = .ok (.under "/api/v 1") ∧
      (PathPattern.under "/api/v 1").spelling = "/api/v 1/**" ∧ PathPattern.under "/api/v 1" ≠ .exact "/") ∧
    (∃ p, ofConfig c = .ok p ∧ p.excludedPaths.map PathPattern.spelling = ["/api/v 1/**", "/"]) ∧
    ¬ ∃ p, ofConfig { c with excludedPaths := ["/**", " /a*/**"] } = .ok p := by
  intro c
  obtain ⟨hgrammar, hspelled, hpolicy⟩ := patterns_spelled_as_written
  have hapi : PathPattern.ofText " /api/v 1/**\n" = .ok (.under "/api/v 1") := by decide +kernel
  have hroot : PathPattern.ofText "/" = .ok (.exact "/") := by decide +kernel
  have hrefused : PathPattern.ofText " /a*/**" = .error ⟨"/a*/**", .wildcard⟩ := by decide +kernel
  obtain ⟨hspelling, -, hsame⟩ := hspelled _ _ hapi
  refine ⟨⟨hapi, hspelling.trans (by decide +kernel), ?_⟩, ?_, ?_⟩
  · rw [ne_eq, hsame _ _ hroot]
    decide +kernel
  · obtain ⟨hmade, hkept⟩ := hpolicy c
    have hpaths : nonblank c.excludedPaths = [" /api/v 1/**\n", "/"] := by decide +kernel
    have hwritten : ∀ path ∈ nonblank c.excludedPaths,
        PathPattern.IsWritten (Text.trim path).toList := by
      rw [hpaths, List.forall_mem_cons, List.forall_mem_singleton]
      exact ⟨(hgrammar _).mp ⟨_, hapi⟩, (hgrammar _).mp ⟨_, hroot⟩⟩
    have hrest : ofConfig { c with excludedPaths := [] } = .ok { usual with excludedPaths := [] } := by
      decide +kernel
    obtain ⟨p, hp⟩ := hmade.mpr ⟨⟨_, hrest⟩, hwritten⟩
    exact ⟨p, hp, (hkept p hp).2.trans (by decide +kernel)⟩
  · rw [(hpolicy _).1, not_and]
    intro _ hwritten
    obtain ⟨p, hp⟩ := (hgrammar " /a*/**").mpr (hwritten _ (by decide +kernel))
    rw [hrefused] at hp
    cases hp

end Policy

end RowFence
