import RowFence.Proofs.Session.Scopes

/-! A program followed step by step into its scopes. At every moment of it the running scopes are
known, and what the program has done since each of them was entered. -/

namespace RowFence.Session

/-- A connection and the context that it is taken for, loose if no scope is running then and it is
taken for whatever is current. -/
structure Checkout where
  connection : String
  context : Context
  loose : Bool
  deriving DecidableEq, Repr

inductive Event where
  | created (c : Context) (t : TenantId)
  | set (c : Context) (t : TenantId)
  | cleared (c : Context)
  | dropped (c : Context)
  | left (c : Context)
  | took (x : Checkout)
  deriving DecidableEq, Repr

namespace Event

def write? : Event → Option Write
  | created c t | set c t => some ⟨c, some t⟩
  | cleared c | dropped c | left c => some ⟨c, none⟩
  | took _ => none

def checkout? : Event → Option Checkout
  | took x => some x
  | _ => none

/-- The program itself writes to a context, or drops a guard on it. -/
def Changes (c : Context) : Event → Prop
  | set d _ | cleared d | dropped d => d = c
  | _ => False

instance (c : Context) : (e : Event) → Decidable (e.Changes c)
  | set d _ | cleared d | dropped d => inferInstanceAs (Decidable (d = c))
  | created _ _ | left _ | took _ => inferInstanceAs (Decidable False)

/-- A context is written to, by the program itself or at the end of a scope. -/
def Touches (c : Context) (e : Event) : Prop := e.Changes c ∨ e = left c

instance (c : Context) (e : Event) : Decidable (e.Touches c) := inferInstanceAs (Decidable (_ ∨ _))

/-- What is in a context after an event. -/
def apply (c : Context) (held? : Option TenantId) : Event → Option TenantId
  | set d t => if d = c then some t else held?
  | cleared d | dropped d | left d => if d = c then none else held?
  | created _ _ | took _ => held?

end Event

/-- A scope that is running, with what its context held when it was entered. -/
structure Running where
  context : Context
  tenant? : Option TenantId
  since : List Event := []

def Running.see (events : List Event) (o : Running) : Running :=
  { o with since := o.since ++ events }

/-- How far a program has come. The innermost scope is the first one. -/
structure Progress where
  session : Session := {}
  running : List Running := []
  past : List Event := []

structure Moment extends Progress where
  next? : Option Step

def Step.result (p : Policy) (step : Step) (s : Session) : Result := (step.run p s).1

def Step.IsPlain : Step → Prop
  | .scope _ _ _ => False
  | _ => True

/-- What a step does that is not a scope. -/
def Step.events : Step → Progress → List Event
  | .create _ tenant?, g => tenant?.toList.map (.created (g.session.contexts.create tenant?).1)
  | .set text t, g => [.set (named text g.session).1 t]
  | .clear text, g => [.cleared (named text g.session).1]
  | .guard _ name, g | .drop name, g => (g.session.guards.lookup name).toList.map .dropped
  | .connect connection text, g => [.took ⟨connection, (named text g.session).1, false⟩]
  | .connectCurrent connection, g =>
    let c := g.session.contexts.current?.getD (g.session.contexts.create none).1
    [.took ⟨connection, c, g.running.isEmpty⟩]
  | _, _ => []

namespace Progress

def advance (g : Progress) (s : Session) (events : List Event) : Progress :=
  ⟨s, g.running.map (·.see events), g.past ++ events⟩

def pass (g : Progress) (p : Policy) (step : Step) : Progress :=
  g.advance (step.run p g.session).2 (step.events g)

def enter (g : Progress) (text : String) : Progress :=
  let (c, s) := named text g.session
  { g with session := s.enter c, running := ⟨c, s.contexts.tenant? c, []⟩ :: g.running }

def leave (g : Progress) : Progress :=
  match g.running with
  | [] => { g with session := g.session.leave }
  | o :: running => { g with running }.advance g.session.leave [.left o.context]

end Progress

section Definitions

variable (p : Policy)

mutual

def Step.follow : Step → Progress → Progress
  | .scope text _ steps, g => (followAll steps (g.enter text)).leave
  | step, g => g.pass p step

def followAll : List Step → Progress → Progress
  | [], g => g
  | step :: steps, g => followAll steps (step.follow g)

end

mutual

/-- The moments inside a step, those of its own scopes included. -/
def Step.moments : Step → Progress → List Moment
  | .scope text _ steps, g => momentsAll steps (g.enter text)
  | _, _ => []

/-- The moments before each step, and one when all have been made. -/
def momentsAll : List Step → Progress → List Moment
  | [], g => [{ g with next? := none }]
  | step :: steps, g =>
    { g with next? := some step } :: (step.moments g ++ momentsAll steps (step.follow p g))

end

end Definitions

section Runs

variable (p : Policy)

lemma follow_scope (text : String) (ending : Ending) (steps : List Step) (g : Progress) :
    (Step.scope text ending steps).follow p g = (followAll p steps (g.enter text)).leave := rfl

lemma session_leave (g : Progress) : g.leave.session = g.session.leave := by
  unfold Progress.leave
  split <;> rfl

mutual

lemma session_follow (step : Step) (g : Progress) :
    (step.follow p g).session = (step.run p g.session).2 := by
  cases step
  case scope text ending steps =>
    rw [follow_scope, session_leave]
    exact congrArg Session.leave (session_followAll steps (g.enter text))
  all_goals rfl

lemma session_followAll (steps : List Step) (g : Progress) :
    (followAll p steps g).session = (runAll p steps g.session).2 := by
  match steps with
  | [] => rfl
  | step :: steps =>
    rw [runAll_cons, ← session_follow step g]
    exact session_followAll steps (step.follow p g)

end

/-- What holds after every plain step, after a scope is entered and after one is left, if it holds
before. -/
structure Invariant (I : Progress → Prop) : Prop where
  pass : ∀ {g : Progress} {step : Step}, step.IsPlain → I g → I (g.pass p step)
  enter : ∀ {g : Progress} (text : String), I g → I (g.enter text)
  leave : ∀ {g : Progress}, I g → I g.leave

namespace Invariant

variable {p} {I : Progress → Prop}

mutual

lemma follow (h : Invariant p I) (step : Step) {g : Progress} (hg : I g) :
    I (step.follow p g) ∧ ∀ m ∈ step.moments p g, I m.toProgress := by
  cases step
  case scope text ending steps =>
    obtain ⟨hlast, hmoments⟩ := h.followAll steps (h.enter text hg)
    exact ⟨h.leave hlast, hmoments⟩
  all_goals exact ⟨h.pass trivial hg, fun m hm => nomatch hm⟩

lemma followAll (h : Invariant p I) (steps : List Step) {g : Progress} (hg : I g) :
    I (followAll p steps g) ∧ ∀ m ∈ momentsAll p steps g, I m.toProgress := by
  match steps with
  | [] =>
    refine ⟨hg, fun m hm => ?_⟩
    rw [List.mem_singleton.mp hm]
    exact hg
  | step :: steps =>
    obtain ⟨hstep, hinside⟩ := h.follow step hg
    obtain ⟨hlast, hafter⟩ := h.followAll steps hstep
    refine ⟨hlast, fun m hm => ?_⟩
    rcases List.mem_cons.mp hm with rfl | hm
    · exact hg
    · exact (List.mem_append.mp hm).elim (hinside m) (hafter m)

end

end Invariant

end Runs

end RowFence.Session
