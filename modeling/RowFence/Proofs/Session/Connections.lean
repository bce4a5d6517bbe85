import Mathlib.Data.List.Induction
import RowFence.Proofs.Session.Current

/-! Statements sent on a connection are scoped to the tenant that its own context holds at that
moment. A connection taken outside every scope has a context that nothing else leads to. -/

namespace RowFence.Session

/-- Nothing that a program can name leads to the context, and nothing is in it. -/
structure Detached (s : Session) (c : Context) : Prop where
  known : c.index < s.contexts.held.length
  named : ∀ x ∈ s.names, x.2 ≠ c
  guarded : ∀ x ∈ s.guards, x.2 ≠ c
  opened : c ∉ s.contexts.scopes
  empty : s.contexts.tenant? c = none

namespace Detached

variable {s : Session} {c d : Context}

lemma fresh {ws : List Write} (h : Recorded s ws) :
    Detached { s with contexts := (s.contexts.create none).2 } (s.contexts.create none).1 where
  known := by simp [Contexts.create]
  named x hx heq := Nat.lt_irrefl _ (heq ▸ h.named x hx)
  guarded x hx heq := Nat.lt_irrefl _ (heq ▸ h.guarded x hx)
  opened hx := Nat.lt_irrefl _ (h.opened _ hx)
  empty := by simp [Contexts.create, Contexts.tenant?]

lemma connected (h : Detached s c) (connections : List (String × Context)) :
    Detached { s with connections } c :=
  ⟨h.known, h.named, h.guarded, h.opened, h.empty⟩

lemma create (h : Detached s c) (tenant? : Option TenantId) :
    Detached { s with contexts := (s.contexts.create tenant?).2 } c where
  known := by
    rw [Contexts.create, List.length_append]
    exact Nat.lt_add_right _ h.known
  named := h.named
  guarded := h.guarded
  opened := h.opened
  empty := by
    rw [Contexts.create, Contexts.tenant?, List.getElem?_append_left h.known]
    exact h.empty

lemma created_ne (h : Detached s c) (tenant? : Option TenantId) :
    (s.contexts.create tenant?).1 ≠ c := by
  intro heq
  exact Nat.lt_irrefl _ (heq ▸ h.known)

lemma name (h : Detached s c) (hne : d ≠ c) (text : String) :
    Detached { s with names := bindName text d s.names } c where
  known := h.known
  named x hx := by
    rcases List.mem_cons.mp hx with rfl | hx
    · exact hne
    · exact h.named x (List.mem_of_mem_filter hx)
  guarded := h.guarded
  opened := h.opened
  empty := h.empty

lemma put (h : Detached s c) (hne : d ≠ c) (tenant? : Option TenantId) :
    Detached { s with contexts := s.contexts.put d tenant? } c where
  known := by
    rw [Contexts.put, List.length_set]
    exact h.known
  named := h.named
  guarded := h.guarded
  opened := h.opened
  empty := by
    have hindex : d.index ≠ c.index := fun heq => hne (congrArg Context.mk heq)
    rw [Contexts.put, Contexts.tenant?, List.getElem?_set_ne hindex]
    exact h.empty

lemma openNamed (h : Detached s c) (text : String) :
    Detached (Session.named text s).2 c ∧ (Session.named text s).1 ≠ c := by
  rw [named_eq]
  split
  · rename_i d hlookup
    exact ⟨h, h.named _ (mem_of_lookup hlookup)⟩
  · exact ⟨(h.create none).name (h.created_ne none) text, h.created_ne none⟩

lemma dropGuard (h : Detached s c) (guard : String) : Detached (dropGuard guard s).2 c := by
  rw [dropGuard_eq]
  split
  · exact h
  · rename_i d hlookup
    have hput := h.put (h.guarded _ (mem_of_lookup hlookup)) none
    exact ⟨hput.known, hput.named, fun x hx => hput.guarded x (List.mem_of_mem_filter hx),
      hput.opened, hput.empty⟩

lemma guard (h : Detached s c) (hne : d ≠ c) (guard : String) :
    Detached (setGuard guard d s).2 c := by
  have hdrop := h.dropGuard guard
  refine ⟨hdrop.known, hdrop.named, fun x hx => ?_, hdrop.opened, hdrop.empty⟩
  rcases List.mem_cons.mp hx with rfl | hx
  · exact hne
  · exact hdrop.guarded x (List.mem_of_mem_filter hx)

lemma run (p : Policy) (h : Detached s c) {step : Step} (hplain : step.IsPlain) :
    Detached (step.run p s).2 c := by
  match step with
  | .idle | .currentTenant | .rewriteFor _ _ | .rewriteCurrent _ => exact h
  | .get text | .getOr text _ | .has text | .rewrite text _ => exact (h.openNamed text).1
  | .create text tenant? => exact (h.create tenant?).name (h.created_ne tenant?) text
  | .share text other =>
    obtain ⟨hnamed, hne⟩ := h.openNamed text
    exact hnamed.name hne other
  | .set text t =>
    obtain ⟨hnamed, hne⟩ := h.openNamed text
    exact hnamed.put hne (some t)
  | .clear text =>
    obtain ⟨hnamed, hne⟩ := h.openNamed text
    exact hnamed.put hne none
  | .guard text guard =>
    obtain ⟨hnamed, hne⟩ := h.openNamed text
    exact hnamed.guard hne guard
  | .guarded guard =>
    rw [run_guarded]
    exact h
  | .drop guard => exact h.dropGuard guard
  | .current name? =>
    rw [run_current]
    split
    · rename_i d text hcurrent
      have hmem := List.mem_of_mem_head? hcurrent
      exact h.name (fun heq => h.opened (heq ▸ hmem)) text
    · exact h
  | .connect connection text => exact (h.openNamed text).1.connected _
  | .connectCurrent connection =>
    rw [run_connectCurrent]
    split
    · exact h.connected _
    · exact (h.create none).connected _
  | .submit connection _ _ =>
    rw [run_submit]
    exact h

lemma enter (h : Detached s c) (text : String) :
    Detached ((Session.named text s).2.enter (Session.named text s).1) c := by
  obtain ⟨hnamed, hne⟩ := h.openNamed text
  refine ⟨hnamed.known, hnamed.named, hnamed.guarded, fun hmem => ?_, hnamed.empty⟩
  rcases List.mem_cons.mp hmem with heq | hmem
  · exact hne heq.symm
  · exact hnamed.opened hmem

lemma leave (h : Detached s c) : Detached s.leave c := by
  unfold Session.leave Contexts.leave
  split
  · exact h
  · rename_i d scopes hscopes
    have hopened : c ∉ d :: scopes := hscopes ▸ h.opened
    have hput := h.put (List.ne_of_not_mem_cons hopened).symm none
    exact ⟨hput.known, hput.named, hput.guarded, List.not_mem_of_not_mem_cons hopened, hput.empty⟩

end Detached

section Lookups

variable (connection : String)

lemma lookup_filter_ne {α : Type} {name other : String} (hne : other ≠ name)
    (names : List (String × α)) :
    (names.filter (·.1 != name)).lookup other = names.lookup other := by
  induction names with
  | nil => rfl
  | cons x names ih =>
    obtain ⟨text, a⟩ := x
    by_cases htext : text = name
    · have hother : (other == text) = false := by simp [htext, hne]
      rw [List.filter_cons_of_neg (by simp [htext]), ih, List.lookup_cons, hother]
    · rw [List.filter_cons_of_pos (by simp [htext]), List.lookup_cons, List.lookup_cons, ih]

lemma lookup_bindName {α : Type} (name other : String) (a : α) (names : List (String × α)) :
    (bindName name a names).lookup other = if name = other then some a else names.lookup other := by
  rw [bindName, List.lookup_cons]
  by_cases h : name = other
  · rw [if_pos h, h, beq_self_eq_true]
  · have hne : (other == name) = false := by simpa using Ne.symm h
    rw [if_neg h, hne]
    exact lookup_filter_ne (Ne.symm h) names

/-- The checkout that stands for a connection after an event. -/
def Event.rebind (x? : Option Checkout) : Event → Option Checkout
  | took x => if x.connection = connection then some x else x?
  | _ => x?

def lastCheckout (events : List Event) : Option Checkout :=
  events.foldl (Event.rebind connection) none

lemma lastCheckout_append (past : List Event) (e : Event) :
    lastCheckout connection (past ++ [e]) = e.rebind connection (lastCheckout connection past) :=
  List.foldl_concat ..

lemma named_connections (text : String) (s : Session) :
    (named text s).2.connections = s.connections := by
  rw [named_eq]
  split <;> rfl

lemma dropGuard_connections (guard : String) (s : Session) :
    (dropGuard guard s).2.connections = s.connections := by
  rw [dropGuard_eq]
  split <;> rfl

lemma connections_run (p : Policy) {step : Step} (hplain : step.IsPlain) (g : Progress) :
    (step.run p g.session).2.connections =
      ((step.events g).filterMap Event.checkout?).foldl
        (fun connections x => bindName x.connection x.context connections)
        g.session.connections := by
  match step with
  | .idle | .currentTenant | .rewriteFor _ _ | .rewriteCurrent _ => rfl
  | .get text | .getOr text _ | .has text | .rewrite text _ | .share text _ | .set text _
  | .clear text => exact named_connections text g.session
  | .create _ tenant? => cases tenant? <;> rfl
  | .guard text guard =>
    have hdrop := dropGuard_connections guard (named text g.session).2
    rw [named_connections] at hdrop
    rw [Step.events]
    cases g.session.guards.lookup guard <;> exact hdrop
  | .guarded guard =>
    rw [run_guarded]
    rfl
  | .drop guard =>
    have hdrop := dropGuard_connections guard g.session
    rw [Step.events]
    cases g.session.guards.lookup guard <;> exact hdrop
  | .current name? =>
    rw [run_current]
    split <;> rfl
  | .connect connection text =>
    exact congrArg (bindName connection _) (named_connections text g.session)
  | .connectCurrent connection =>
    rw [run_connectCurrent, Step.events]
    cases g.session.contexts.current? <;> rfl
  | .submit connection _ _ =>
    rw [run_submit]
    rfl

lemma lookup_checkouts {past : List Event} {connections : List (String × Context)}
    (h : connections.lookup connection = (lastCheckout connection past).map (·.context))
    (events : List Event) :
    ((events.filterMap Event.checkout?).foldl
      (fun connections x => bindName x.connection x.context connections)
      connections).lookup connection =
        (lastCheckout connection (past ++ events)).map (·.context) := by
  induction events generalizing past connections with
  | nil =>
    rw [List.append_nil]
    exact h
  | cons e events ih =>
    rw [List.append_cons]
    cases e
    case took x =>
      apply ih
      rw [lookup_bindName, h, lastCheckout_append, Event.rebind]
      split <;> rfl
    all_goals
      apply ih
      rw [lastCheckout_append]
      exact h

end Lookups

lemma took_of_mem_events {step : Step} {g : Progress} {x : Checkout}
    (h : Event.took x ∈ step.events g) (hloose : x.loose = true) :
    step = .connectCurrent x.connection ∧ g.running = [] ∧
      x.context = g.session.contexts.current?.getD (g.session.contexts.create none).1 := by
  cases step
  case connectCurrent connection =>
    cases List.mem_singleton.mp h
    exact ⟨rfl, List.isEmpty_iff.mp hloose, rfl⟩
  case connect connection text =>
    cases List.mem_singleton.mp h
    cases hloose
  all_goals simp [Step.events] at h

/-- Each connection leads to the context that it was last taken for, and nothing else leads to one
that was taken loose. -/
structure Bound (g : Progress) : Prop where
  faithful : Faithful g
  lookup : ∀ connection, g.session.connections.lookup connection =
    (lastCheckout connection g.past).map (·.context)
  detached : ∀ x, .took x ∈ g.past → x.loose = true → Detached g.session x.context

namespace Bound

variable {g : Progress}

lemma pass (p : Policy) (h : Bound g) {step : Step} (hplain : step.IsPlain) :
    Bound (g.pass p step) where
  faithful := h.faithful.pass p hplain
  lookup connection := by
    rw [Progress.pass, Progress.advance, connections_run p hplain]
    exact lookup_checkouts connection (h.lookup connection) (step.events g)
  detached x hx hloose := by
    rcases List.mem_append.mp hx with hx | hx
    · exact (h.detached x hx hloose).run p hplain
    · -- No scope is running, so nothing is current and the connection gets a context of its own.
      obtain ⟨rfl, hrunning, hcontext⟩ := took_of_mem_events hx hloose
      have hcurrent : g.session.contexts.current? = none := by
        rw [Contexts.current?, h.faithful.scopes, hrunning, List.map_nil, List.head?_nil]
      rw [hcurrent, Option.getD_none] at hcontext
      rw [Progress.pass, Progress.advance, run_connectCurrent, hcurrent, hcontext]
      exact (Detached.fresh h.faithful.recorded).connected _

lemma enter (h : Bound g) (text : String) : Bound (g.enter text) where
  faithful := h.faithful.enter text
  lookup connection :=
    (congrArg (List.lookup connection) (named_connections text g.session)).trans
      (h.lookup connection)
  detached x hx hloose := (h.detached x hx hloose).enter text

lemma leave (h : Bound g) : Bound g.leave := by
  have hfaithful := h.faithful.leave
  unfold Progress.leave at hfaithful ⊢
  split at hfaithful
  · exact ⟨hfaithful, h.lookup, fun x hx hloose => (h.detached x hx hloose).leave⟩
  · refine ⟨hfaithful, fun connection => ?_, fun x hx hloose => ?_⟩
    · rw [Progress.advance, lastCheckout_append]
      exact h.lookup connection
    · have hpast : .took x ∈ g.past := by simpa [Progress.advance] using hx
      exact (h.detached x hpast hloose).leave

lemma invariant (p : Policy) : Invariant p Bound where
  pass hplain h := h.pass p hplain
  enter text h := h.enter text
  leave h := h.leave

end Bound

/-- A statement that a program sends on a connection, and what comes of it. -/
structure Submission where
  connection : String
  call : Call
  sql : String
  result : Result

def Result.isRefusal : Result → Bool
  | .text (.error _) => true
  | _ => false

def Moment.submission? (p : Policy) (m : Moment) : Option Submission :=
  match m.next? with
  | some (.submit connection call sql) =>
    some ⟨connection, call, sql, (Step.submit connection call sql).result p m.session⟩
  | _ => none

def submissions (p : Policy) (steps : List Step) (g : Progress) : List Submission :=
  (momentsAll p steps g).filterMap (·.submission? p)

def Step.submissions (p : Policy) : Step → Progress → List Submission
  | .submit connection call sql, g =>
    [⟨connection, call, sql, (Step.submit connection call sql).result p g.session⟩]
  | .scope text _ steps, g => Session.submissions p steps (g.enter text)
  | _, _ => []

lemma submissions_cons (p : Policy) (step : Step) (steps : List Step) (g : Progress) :
    submissions p (step :: steps) g =
      step.submissions p g ++ submissions p steps (step.follow p g) := by
  unfold submissions
  rw [momentsAll, List.filterMap_cons, List.filterMap_append]
  cases step <;> rfl

lemma follow_submit (p : Policy) (connection : String) (call : Call) (sql : String)
    (g : Progress) : (Step.submit connection call sql).follow p g = g := by
  have hsee (o : Running) : o.see [] = o := by
    rw [Running.see, List.append_nil]
  change Progress.mk _ (g.running.map (·.see [])) (g.past ++ []) = g
  simp only [hsee, run_submit, List.map_id', List.append_nil]

/-- The second program is the first one without some of the statements that are refused. -/
inductive Omits (p : Policy) : Progress → List Step → List Step → Prop
  | nil {g} : Omits p g [] []
  | refused {g connection call sql steps steps'} :
      ((Step.submit connection call sql).result p g.session).isRefusal = true →
      Omits p g steps steps' → Omits p g (.submit connection call sql :: steps) steps'
  | keep {g step steps steps'} :
      Omits p (step.follow p g) steps steps' → Omits p g (step :: steps) (step :: steps')
  | inside {g text ending inner inner' steps steps'} :
      Omits p (g.enter text) inner inner' →
      Omits p ((Step.scope text ending inner).follow p g) steps steps' →
      Omits p g (.scope text ending inner :: steps) (.scope text ending inner' :: steps')

namespace Omits

variable {p : Policy} {g : Progress} {steps steps' : List Step}

lemma followAll (h : Omits p g steps steps') :
    Session.followAll p steps' g = Session.followAll p steps g := by
  induction h with
  | nil => rfl
  | refused _ _ ih =>
    rw [Session.followAll, follow_submit]
    exact ih
  | keep _ ih => exact ih
  | inside _ _ ihinner ih =>
    rw [Session.followAll, follow_scope, ihinner, ← follow_scope]
    exact ih

lemma submissions (h : Omits p g steps steps') :
    (Session.submissions p steps' g).Sublist (Session.submissions p steps g) ∧
      (Session.submissions p steps' g).filter (!·.result.isRefusal) =
        (Session.submissions p steps g).filter (!·.result.isRefusal) := by
  induction h with
  | nil => exact ⟨List.Sublist.refl _, rfl⟩
  | refused hrefused _ ih =>
    obtain ⟨hsublist, hfilter⟩ := ih
    rw [submissions_cons, follow_submit, Step.submissions, List.singleton_append,
      List.filter_cons_of_neg (by simp [hrefused])]
    exact ⟨hsublist.cons _, hfilter⟩
  | keep _ ih =>
    obtain ⟨hsublist, hfilter⟩ := ih
    rw [submissions_cons, submissions_cons, List.filter_append, List.filter_append, hfilter]
    exact ⟨hsublist.append_left _, rfl⟩
  | inside hinner _ ihinner ih =>
    obtain ⟨hsublist, hfilter⟩ := ih
    obtain ⟨hsublist', hfilter'⟩ := ihinner
    rw [submissions_cons, submissions_cons, follow_scope, hinner.followAll, ← follow_scope,
      Step.submissions, Step.submissions, List.filter_append, List.filter_append, hfilter, hfilter']
    exact ⟨hsublist'.append hsublist, rfl⟩

end Omits

end RowFence.Session
