import RowFence.Proofs.Session.Moments

/-! The tenant of a running scope is the one it was entered with, until its context is written to or
a scope on the same context is left. -/

namespace RowFence.Session

section Events

variable (c : Context) (held? : Option TenantId) (ws : List Write)

lemma Event.apply_of_not_touches {e : Event} (h : ¬e.Touches c) : e.apply c held? = held? := by
  cases e
  case created | took => rfl
  case set | cleared | dropped => exact if_neg fun hc => h (.inl hc)
  case left d => exact if_neg fun hc => h (.inr (congrArg Event.left hc))

lemma foldl_apply_of_untouched {events : List Event} (h : ∀ e ∈ events, ¬e.Touches c) :
    events.foldl (Event.apply c) held? = held? := by
  induction events with
  | nil => rfl
  | cons e events ih =>
    obtain ⟨he, hevents⟩ := List.forall_mem_cons.mp h
    rw [List.foldl_cons, Event.apply_of_not_touches c held? he]
    exact ih hevents

lemma foldl_apply_of_left {events later : List Event} (h : ∀ e ∈ later, ¬e.Touches c) :
    (events ++ .left c :: later).foldl (Event.apply c) held? = none := by
  rw [List.foldl_append, List.foldl_cons, foldl_apply_of_untouched c _ h]
  exact if_pos rfl

/-- A context that exists when the events begin is not created by them. -/
lemma lastWritten_append_events {events : List Event}
    (hcreated : ∀ d t, Event.created d t ∈ events → d ≠ c) :
    lastWritten c (ws ++ events.filterMap Event.write?) =
      events.foldl (Event.apply c) (lastWritten c ws) := by
  induction events generalizing ws with
  | nil => rw [List.filterMap_nil, List.append_nil, List.foldl_nil]
  | cons e events ih =>
    have htail (w : Write) (hw : e.write? = some w)
        (hheld : lastWritten c (ws ++ [w]) = e.apply c (lastWritten c ws)) :
        lastWritten c (ws ++ (e :: events).filterMap Event.write?) =
          (e :: events).foldl (Event.apply c) (lastWritten c ws) := by
      rw [List.filterMap_cons_some hw, List.append_cons, List.foldl_cons, ← hheld]
      exact ih _ fun d t hd => hcreated d t (List.mem_cons_of_mem e hd)
    cases e
    case created d t =>
      refine htail _ rfl ?_
      rw [lastWritten_append]
      exact if_neg (hcreated d t List.mem_cons_self)
    case took =>
      rw [List.filterMap_cons_none rfl]
      exact ih ws fun d t hd => hcreated d t (List.mem_cons_of_mem _ hd)
    all_goals exact htail _ rfl (lastWritten_append c ws _)

end Events

lemma writes_of_isPlain (p : Policy) {step : Step} (h : step.IsPlain) (g : Progress) :
    step.writes p g.session = (step.events g).filterMap Event.write? := by
  cases step
  case scope => exact h.elim
  case create name tenant? => cases tenant? <;> rfl
  case guard name guard | drop guard =>
    rw [Step.writes, dropWrites, Step.events]
    cases g.session.guards.lookup guard <;> rfl
  all_goals rfl

lemma created_of_mem_events {step : Step} {g : Progress} {c : Context} {t : TenantId}
    (h : Event.created c t ∈ step.events g) : c = ⟨g.session.contexts.held.length⟩ := by
  cases step
  case create name tenant? =>
    obtain ⟨u, -, heq⟩ := List.mem_map.mp h
    cases heq
    rfl
  all_goals simp [Step.events] at h

/-- The session holds what was written, its scopes are those that are running, and each context of
theirs what has been left in it since its scope was entered. -/
structure Faithful (g : Progress) : Prop where
  recorded : Recorded g.session (g.past.filterMap Event.write?)
  scopes : g.session.contexts.scopes = g.running.map (·.context)
  held : ∀ o ∈ g.running,
    g.session.contexts.tenant? o.context = o.since.foldl (Event.apply o.context) o.tenant?

lemma faithful_nil : Faithful {} where
  recorded := recorded_nil
  scopes := rfl
  held := by simp

namespace Faithful

variable {g : Progress}

lemma known (h : Faithful g) {o : Running} (ho : o ∈ g.running) :
    o.context.index < g.session.contexts.held.length :=
  h.recorded.opened _ (h.scopes ▸ List.mem_map_of_mem ho)

/-- Scopes may end on the way. Those that go on see the events. -/
lemma advance (h : Faithful g) {s : Session} {running : List Running} {events : List Event}
    (hrunning : running ⊆ g.running)
    (hrecorded : Recorded s (g.past.filterMap Event.write? ++ events.filterMap Event.write?))
    (hscopes : s.contexts.scopes = running.map (·.context))
    (hcreated : ∀ d t, Event.created d t ∈ events → d = ⟨g.session.contexts.held.length⟩) :
    Faithful ({ g with running }.advance s events) where
  recorded := by
    rw [Progress.advance, List.filterMap_append]
    exact hrecorded
  scopes := by
    rw [Progress.advance, List.map_map]
    exact hscopes
  held o' ho' := by
    obtain ⟨o, hmem, rfl⟩ := List.mem_map.mp ho'
    have ho := hrunning hmem
    -- The context of a running scope is an old one.
    have hfresh (d : Context) (t : TenantId) (hd : Event.created d t ∈ events) : d ≠ o.context := by
      rw [hcreated d t hd]
      intro heq
      exact Nat.lt_irrefl _ (heq ▸ h.known ho)
    calc s.contexts.tenant? o.context
        = lastWritten o.context
            (g.past.filterMap Event.write? ++ events.filterMap Event.write?) := hrecorded.held _
      _ = events.foldl (Event.apply o.context) (g.session.contexts.tenant? o.context) := by
          rw [lastWritten_append_events o.context _ hfresh, h.recorded.held]
      _ = (o.since ++ events).foldl (Event.apply o.context) o.tenant? := by
          rw [h.held o ho, List.foldl_append]

lemma pass (p : Policy) (h : Faithful g) {step : Step} (hplain : step.IsPlain) :
    Faithful (g.pass p step) := by
  obtain ⟨hrecorded, hscopes⟩ := recorded_run p step g.session _ h.recorded
  rw [writes_of_isPlain p hplain] at hrecorded
  apply h.advance (List.Subset.refl _) hrecorded (hscopes.trans h.scopes)
  intro d t hd
  exact created_of_mem_events hd

lemma enter (h : Faithful g) (text : String) : Faithful (g.enter text) := by
  obtain ⟨hnamed, hknown⟩ := h.recorded.openNamed text
  refine ⟨hnamed.enter hknown, ?_, fun o ho => ?_⟩
  · exact congrArg _ ((named_scopes g.session text).trans h.scopes)
  · rcases List.mem_cons.mp ho with rfl | ho
    · rfl
    · rw [← h.held o ho, h.recorded.held]
      exact hnamed.held o.context

lemma leave (h : Faithful g) : Faithful g.leave := by
  unfold Progress.leave
  split
  · rename_i hrunning
    have hscopes : g.session.contexts.scopes = [] := by rw [h.scopes, hrunning, List.map_nil]
    have hleave : g.session.leave = g.session := by simp [Session.leave, Contexts.leave, hscopes]
    rw [hleave]
    exact h
  · rename_i o running hrunning
    have hscopes : g.session.contexts.scopes = o.context :: running.map (·.context) := by
      rw [h.scopes, hrunning, List.map_cons]
    have hrecorded := h.recorded.leave hscopes
    apply h.advance (hrunning ▸ List.subset_cons_self _ _) hrecorded
    · rw [leave_scopes, hscopes, List.tail_cons]
    · intro d t hd
      cases List.mem_singleton.mp hd

lemma invariant (p : Policy) : Invariant p Faithful where
  pass hplain h := h.pass p hplain
  enter text h := h.enter text
  leave h := h.leave

lemma currentTenant? (h : Faithful g) {o : Running} (ho : g.running.head? = some o) :
    g.session.contexts.currentTenant? = o.since.foldl (Event.apply o.context) o.tenant? := by
  have hcurrent : g.session.contexts.current? = some o.context := by
    rw [Contexts.current?, h.scopes, List.head?_map, ho, Option.map_some]
  rw [Contexts.currentTenant?, hcurrent, Option.bind_some]
  exact h.held o (List.mem_of_mem_head? ho)

end Faithful

/-- As long as the context of the innermost scope is not touched, its tenant is the one that it was
entered with. A scope that is left on the same context leaves none. -/
theorem currentTenant?_of_untouched (p : Policy) (steps : List Step) :
    ∀ m ∈ momentsAll p steps {}, ∀ o, m.running.head? = some o →
      (∀ t, o.tenant? = some t → (∀ e ∈ o.since, ¬e.Touches o.context) →
        m.session.contexts.currentTenant? = some t ∧
          Step.currentTenant.result p m.session = .tenant (some t) ∧
          ∀ sql, (Step.rewriteCurrent sql).result p m.session =
            .text (p.scopedText (some t) sql)) ∧
      ∀ before later, o.since = before ++ .left o.context :: later →
        (∀ e ∈ later, ¬e.Touches o.context) →
          m.session.contexts.currentTenant? = none ∧
            ∀ sql, (Step.rewriteCurrent sql).result p m.session = .text (.ok sql) := by
  intro m hm o ho
  have hfaithful := ((Faithful.invariant p).followAll steps faithful_nil).2 m hm
  have hcurrent := hfaithful.currentTenant? ho
  refine ⟨fun t ht huntouched => ?_, fun before later hsince huntouched => ?_⟩
  · rw [foldl_apply_of_untouched _ _ huntouched, ht] at hcurrent
    refine ⟨hcurrent, congrArg Result.tenant hcurrent, fun sql => ?_⟩
    exact congrArg (fun t? => Result.text (p.scopedText t? sql)) hcurrent
  · rw [hsince, foldl_apply_of_left _ _ huntouched] at hcurrent
    refine ⟨hcurrent, fun sql => ?_⟩
    exact congrArg (fun t? => Result.text (p.scopedText t? sql)) hcurrent

def ordersAfter (inner : List Step) : List Step :=
  [.create "a" (some .one),
    .scope "a" .finished (inner ++ [.rewriteCurrent "SELECT * FROM orders"])]

def otherScope : List Step := [.create "b" (TenantId.ofNat? 2), .scope "b" .finished []]

def sharedScope : List Step := [.share "a" "b", .scope "b" .finished []]

theorem currentTenant?_after_otherScope :
    (∃ m ∈ momentsAll .usualEnabled (ordersAfter otherScope) {},
        m.running.length = 1 ∧ m.session.contexts.currentTenant? = some .one) ∧
      ∃ m ∈ momentsAll .usualEnabled (ordersAfter sharedScope) {},
        m.running.length = 1 ∧ m.session.contexts.currentTenant? = none := by
  constructor
  · have hm := List.mem_of_getElem? (l := momentsAll .usualEnabled (ordersAfter otherScope) {})
      (i := 5) rfl
    exact ⟨_, hm, rfl, ((currentTenant?_of_untouched _ _ _ hm _ rfl).1 _ rfl (by decide)).1⟩
  · have hm := List.mem_of_getElem? (l := momentsAll .usualEnabled (ordersAfter sharedScope) {})
      (i := 5) rfl
    exact ⟨_, hm, rfl,
      ((currentTenant?_of_untouched _ _ _ hm _ rfl).2 [] [] rfl (by simp)).1⟩

/-- Nothing is set or cleared in the scope, and no guard dropped. -/
theorem currentTenant?_after_sharedScope :
    ∃ m ∈ momentsAll .usualEnabled (ordersAfter sharedScope) {},
      ∃ o, m.running.head? = some o ∧ o.tenant? = some .one ∧
        (∀ e ∈ o.since, ¬e.Changes o.context) ∧ m.session.contexts.currentTenant? = none ∧
        m.next?.map (·.result .usualEnabled m.session) =
          some (.text (.ok "SELECT * FROM orders")) := by
  have hm := List.mem_of_getElem? (l := momentsAll .usualEnabled (ordersAfter sharedScope) {})
    (i := 5) rfl
  exact ⟨_, hm, _, rfl, rfl, by decide, rfl, rfl⟩

end RowFence.Session
