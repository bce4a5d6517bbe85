import Mathlib.Data.List.Basic
import Mathlib.Tactic.Lemma
import RowFence.Session

/-! Scopes nest like a stack. Whenever a scope is left, the context that was current before it is
current again, its own context is empty, and all others hold what was last written to them. -/

namespace RowFence.Session

/-- What a step leaves in a context. -/
structure Write where
  context : Context
  tenant? : Option TenantId
  deriving DecidableEq, Repr

/-- What the last write to a context left in it. Nothing is in a context before the first. -/
def lastWritten (c : Context) (ws : List Write) : Option TenantId :=
  (ws.filter (·.context == c)).getLast?.bind (·.tenant?)

lemma lastWritten_append (c : Context) (ws : List Write) (w : Write) :
    lastWritten c (ws ++ [w]) = if w.context = c then w.tenant? else lastWritten c ws := by
  unfold lastWritten
  by_cases h : w.context = c <;> simp [List.filter_append, h]

lemma lastWritten_of_unwritten {c : Context} {ws : List Write} (h : ∀ w ∈ ws, w.context ≠ c) :
    lastWritten c ws = none := by
  have hnone : ws.filter (·.context == c) = [] :=
    List.filter_eq_nil_iff.mpr fun w hw => by simpa using h w hw
  rw [lastWritten, hnone]
  rfl

def enter (s : Session) (c : Context) : Session := { s with contexts := s.contexts.enter c }

def leave (s : Session) : Session := { s with contexts := s.contexts.leave }

/-- The drop of a guard empties its context. -/
def dropWrites (s : Session) (guard : String) : List Write :=
  (s.guards.lookup guard).toList.map fun c => ⟨c, none⟩

mutual

/-- What a step writes, one after the other: what it sets and clears, the guards that it drops, and
the end of a scope with what is written in it. -/
def Step.writes (p : Policy) : Step → Session → List Write
  | .create _ tenant?, s => tenant?.toList.map fun t => ⟨(s.contexts.create tenant?).1, some t⟩
  | .set text t, s => [⟨(named text s).1, some t⟩]
  | .clear text, s => [⟨(named text s).1, none⟩]
  | .guard _ guard, s => s.dropWrites guard
  | .drop guard, s => s.dropWrites guard
  | .scope text _ steps, s =>
    let (c, opened) := named text s
    writesAll p steps (opened.enter c) ++ [⟨c, none⟩]
  | _, _ => []

def writesAll (p : Policy) : List Step → Session → List Write
  | [], _ => []
  | step :: steps, s => step.writes p s ++ writesAll p steps (step.run p s).2

end

/-- A scope that a program leaves: its context, the sessions before it is entered and after it is
left, and all that the program has written by then. -/
structure Exit where
  context : Context
  entered : Session
  left : Session
  written : List Write

mutual

/-- The scopes that a step leaves, inner scopes before outer ones, after these writes. -/
def Step.exits (p : Policy) : Step → Session → List Write → List Exit
  | .scope text ending steps, s, ws =>
    let step := Step.scope text ending steps
    let (c, opened) := named text s
    exitsAll p steps (opened.enter c) ws ++
      [{ context := c, entered := s, left := (step.run p s).2, written := ws ++ step.writes p s }]
  | _, _, _ => []

def exitsAll (p : Policy) : List Step → Session → List Write → List Exit
  | [], _, _ => []
  | step :: steps, s, ws =>
    step.exits p s ws ++ exitsAll p steps (step.run p s).2 (ws ++ step.writes p s)

end

section Runs

variable (p : Policy) (s : Session)

lemma named_eq (text : String) : named text s =
    match s.names.lookup text with
    | some c => (c, s)
    | none =>
      (⟨s.contexts.held.length⟩,
        { s with
          contexts := (s.contexts.create none).2
          names := bindName text ⟨s.contexts.held.length⟩ s.names }) := by
  unfold named
  simp only [bind, StateT.bind, get, getThe, MonadStateOf.get, StateT.get, pure]
  cases s.names.lookup text <;> rfl

lemma named_scopes (text : String) : (named text s).2.contexts.scopes = s.contexts.scopes := by
  rw [named_eq]
  split <;> rfl

lemma dropGuard_eq (guard : String) : dropGuard guard s =
    match s.guards.lookup guard with
    | none => (false, s)
    | some c =>
      (true, { s with
        contexts := s.contexts.clear c
        guards := s.guards.filter (·.1 != guard) }) := by
  unfold dropGuard
  simp only [bind, StateT.bind, get, getThe, MonadStateOf.get, StateT.get, pure]
  cases s.guards.lookup guard <;> rfl

lemma named_guards (text : String) : (named text s).2.guards = s.guards := by
  rw [named_eq]
  split <;> rfl

lemma dropGuard_scopes (guard : String) :
    (dropGuard guard s).2.contexts.scopes = s.contexts.scopes := by
  rw [dropGuard_eq]
  split <;> rfl

lemma leave_scopes : s.leave.contexts.scopes = s.contexts.scopes.tail := by
  unfold leave Contexts.leave
  split
  · rename_i h
    rw [h, List.tail_nil]
  · rename_i h
    rw [h, List.tail_cons]

lemma run_guarded (guard : String) : ((Step.guarded guard).run p s).2 = s := by
  simp only [Step.run, bind, StateT.bind, get, getThe, MonadStateOf.get, StateT.get, pure]
  cases s.guards.lookup guard <;> rfl

lemma run_submit (connection : String) (call : Call) (sql : String) :
    ((Step.submit connection call sql).run p s).2 = s := by
  simp only [Step.run, bind, StateT.bind, get, getThe, MonadStateOf.get, StateT.get, pure]
  cases s.connections.lookup connection <;> rfl

lemma run_current (name? : Option String) : ((Step.current name?).run p s).2 =
    match s.contexts.current?, name? with
    | some c, some text => { s with names := bindName text c s.names }
    | _, _ => s := by
  simp only [Step.run, bind, StateT.bind, get, getThe, MonadStateOf.get, StateT.get, pure]
  cases s.contexts.current? <;> cases name? <;> rfl

lemma run_connectCurrent (connection : String) :
    ((Step.connectCurrent connection).run p s).2 =
      match s.contexts.current? with
      | some c => { s with connections := bindName connection c s.connections }
      | none =>
        { s with
          contexts := (s.contexts.create none).2
          connections := bindName connection (s.contexts.create none).1 s.connections } := by
  simp only [Step.run, bind, StateT.bind, get, getThe, MonadStateOf.get, StateT.get, pure]
  cases s.contexts.current? <;> rfl

lemma runAll_cons (step : Step) (steps : List Step) :
    (runAll p (step :: steps) s).2 = (runAll p steps (step.run p s).2).2 := rfl

lemma run_scope (text : String) (ending : Ending) (steps : List Step) :
    ((Step.scope text ending steps).run p s).2 =
      (runAll p steps ((named text s).2.enter (named text s).1)).2.leave := rfl

lemma writes_scope (text : String) (ending : Ending) (steps : List Step) :
    (Step.scope text ending steps).writes p s =
      writesAll p steps ((named text s).2.enter (named text s).1) ++ [⟨(named text s).1, none⟩] :=
  rfl

lemma exits_scope (text : String) (ending : Ending) (steps : List Step) (ws : List Write) :
    (Step.scope text ending steps).exits p s ws =
      exitsAll p steps ((named text s).2.enter (named text s).1) ws ++
        [⟨(named text s).1, s, ((Step.scope text ending steps).run p s).2,
          ws ++ (Step.scope text ending steps).writes p s⟩] := rfl

end Runs

/-- The contexts of a session hold what was last written to them, and all contexts that it knows
have been created. -/
structure Recorded (s : Session) (ws : List Write) : Prop where
  held : ∀ c, s.contexts.tenant? c = lastWritten c ws
  written : ∀ w ∈ ws, w.context.index < s.contexts.held.length
  named : ∀ x ∈ s.names, x.2.index < s.contexts.held.length
  guarded : ∀ x ∈ s.guards, x.2.index < s.contexts.held.length
  opened : ∀ c ∈ s.contexts.scopes, c.index < s.contexts.held.length

lemma recorded_nil : Recorded {} [] where
  held _ := rfl
  written := by simp
  named := by simp
  guarded := by simp
  opened := by simp

lemma mem_of_lookup {α : Type} {name : String} {a : α} {names : List (String × α)}
    (h : names.lookup name = some a) : (name, a) ∈ names := by
  induction names with
  | nil => cases h
  | cons x names ih =>
    rw [List.lookup_cons] at h
    split at h
    · rename_i heq
      cases h
      rw [eq_of_beq heq]
      exact List.mem_cons_self
    · exact List.mem_cons_of_mem _ (ih h)

namespace Recorded

variable {s : Session} {ws : List Write} {c : Context}

lemma after (h : Recorded s ws) {contexts : Contexts} {later : List Write}
    (hlength : s.contexts.held.length ≤ contexts.held.length)
    (hscopes : contexts.scopes = s.contexts.scopes)
    (hheld : ∀ c, contexts.tenant? c = lastWritten c (ws ++ later))
    (hlater : ∀ w ∈ later, w.context.index < contexts.held.length) :
    Recorded { s with contexts } (ws ++ later) where
  held := hheld
  written w hw := (List.mem_append.mp hw).elim
    (fun hw => Nat.lt_of_lt_of_le (h.written w hw) hlength) (hlater w)
  named x hx := Nat.lt_of_lt_of_le (h.named x hx) hlength
  guarded x hx := Nat.lt_of_lt_of_le (h.guarded x hx) hlength
  opened d hd := Nat.lt_of_lt_of_le (h.opened d (hscopes ▸ hd)) hlength

lemma put (h : Recorded s ws) (known : c.index < s.contexts.held.length) (tenant? : Option TenantId) :
    Recorded { s with contexts := s.contexts.put c tenant? } (ws ++ [⟨c, tenant?⟩]) := by
  have hlength : (s.contexts.put c tenant?).held.length = s.contexts.held.length := List.length_set
  refine h.after (Nat.le_of_eq hlength.symm) rfl (fun d => ?_) fun w hw => ?_
  · rw [lastWritten_append, ← h.held]
    obtain ⟨i⟩ := c
    obtain ⟨j⟩ := d
    by_cases hij : i = j
    · subst hij
      simp [Contexts.tenant?, Contexts.put, List.getElem?_set_self known]
    · simp [Contexts.tenant?, Contexts.put, List.getElem?_set_ne hij, hij]
  · rw [List.mem_singleton.mp hw, hlength]
    exact known

lemma create (h : Recorded s ws) (tenant? : Option TenantId) :
    Recorded { s with contexts := (s.contexts.create tenant?).2 }
      (ws ++ tenant?.toList.map fun t => ⟨(s.contexts.create tenant?).1, some t⟩) := by
  have hlength : (s.contexts.create tenant?).2.held.length = s.contexts.held.length + 1 :=
    List.length_append
  refine h.after (hlength ▸ Nat.le_succ _) rfl ?_ fun w hw => ?_
  · rintro ⟨i⟩
    have hheld := h.held ⟨i⟩
    rcases Nat.lt_trichotomy i s.contexts.held.length with hi | rfl | hi
    · have hne : s.contexts.held.length ≠ i := Nat.ne_of_gt hi
      cases tenant? <;>
        simpa [Contexts.tenant?, Contexts.create, List.getElem?_append_left hi, lastWritten_append,
          hne] using hheld
    · have hfresh : lastWritten ⟨s.contexts.held.length⟩ ws = none :=
        lastWritten_of_unwritten fun w hw heq => Nat.lt_irrefl _ (heq ▸ h.written w hw)
      cases tenant? <;>
        simp [Contexts.tenant?, Contexts.create, lastWritten_append, hfresh]
    · have hne : s.contexts.held.length ≠ i := Nat.ne_of_lt hi
      have hout : (s.contexts.held ++ [tenant?])[i]? = none :=
        List.getElem?_eq_none (by simpa using Nat.succ_le_of_lt hi)
      rw [Contexts.tenant?, List.getElem?_eq_none (Nat.le_of_lt hi)] at hheld
      cases tenant? <;>
        simpa [Contexts.tenant?, Contexts.create, hout, lastWritten_append, hne] using hheld
  · obtain ⟨t, -, rfl⟩ := List.mem_map.mp hw
    exact hlength ▸ Nat.lt_succ_self _

lemma name (h : Recorded s ws) (known : c.index < s.contexts.held.length) (text : String) :
    Recorded { s with names := bindName text c s.names } ws where
  held := h.held
  written := h.written
  named x hx := by
    rcases List.mem_cons.mp hx with rfl | hx
    · exact known
    · exact h.named x (List.mem_of_mem_filter hx)
  guarded := h.guarded
  opened := h.opened

lemma openNamed (h : Recorded s ws) (text : String) : Recorded (Session.named text s).2 ws ∧
    (Session.named text s).1.index < (Session.named text s).2.contexts.held.length := by
  rw [named_eq]
  split
  · rename_i c hlookup
    exact ⟨h, h.named _ (mem_of_lookup hlookup)⟩
  · have hknown : s.contexts.held.length < (s.contexts.create none).2.held.length := by
      simp [Contexts.create]
    exact ⟨by simpa using (h.create none).name (c := ⟨s.contexts.held.length⟩) hknown text, hknown⟩

lemma enter (h : Recorded s ws) (known : c.index < s.contexts.held.length) :
    Recorded (s.enter c) ws where
  held := h.held
  written := h.written
  named := h.named
  guarded := h.guarded
  opened d hd := by
    rcases List.mem_cons.mp hd with rfl | hd
    · exact known
    · exact h.opened d hd

lemma leave (h : Recorded s ws) {scopes : List Context} (hscopes : s.contexts.scopes = c :: scopes) :
    Recorded s.leave (ws ++ [⟨c, none⟩]) := by
  have hput := h.put (h.opened c (hscopes ▸ List.mem_cons_self)) none
  have heq : s.leave = { s with contexts := { s.contexts.put c none with scopes } } := by
    simp [Session.leave, Contexts.leave, hscopes, Contexts.clear]
  rw [heq]
  exact ⟨hput.held, hput.written, hput.named, hput.guarded,
    fun d hd => hput.opened d (hscopes ▸ List.mem_cons_of_mem _ hd)⟩

lemma connected (h : Recorded s ws) (connections : List (String × Context)) :
    Recorded { s with connections } ws :=
  ⟨h.held, h.written, h.named, h.guarded, h.opened⟩

lemma dropGuard (h : Recorded s ws) (guard : String) :
    Recorded (dropGuard guard s).2 (ws ++ s.dropWrites guard) := by
  rw [dropGuard_eq, dropWrites]
  cases hlookup : s.guards.lookup guard with
  | none => simpa using h
  | some c =>
    have hput := h.put (h.guarded _ (mem_of_lookup hlookup)) none
    exact ⟨hput.held, hput.written, hput.named,
      fun x hx => hput.guarded x (List.mem_of_mem_filter hx), hput.opened⟩

lemma guard (h : Recorded s ws) (known : c.index < s.contexts.held.length) (guard : String) :
    Recorded (setGuard guard c s).2 (ws ++ s.dropWrites guard) := by
  have hdrop := h.dropGuard guard
  have hlength : (Session.dropGuard guard s).2.contexts.held.length = s.contexts.held.length := by
    rw [dropGuard_eq]
    split <;> simp [Contexts.clear, Contexts.put]
  refine ⟨hdrop.held, hdrop.written, hdrop.named, fun x hx => ?_, hdrop.opened⟩
  rcases List.mem_cons.mp hx with rfl | hx
  · exact hlength ▸ known
  · exact hdrop.guarded x (List.mem_of_mem_filter hx)

end Recorded

section Programs

variable (p : Policy)

mutual

lemma recorded_run (step : Step) (s : Session) (ws : List Write) (h : Recorded s ws) :
    Recorded (step.run p s).2 (ws ++ step.writes p s) ∧
      (step.run p s).2.contexts.scopes = s.contexts.scopes := by
  have hnothing : Recorded s (ws ++ []) := (List.append_nil ws).symm ▸ h
  have hnamed (text : String) : Recorded (named text s).2 (ws ++ []) :=
    (List.append_nil ws).symm ▸ (h.openNamed text).1
  match step with
  | .idle | .currentTenant | .rewriteFor _ _ | .rewriteCurrent _ => exact ⟨hnothing, rfl⟩
  | .get text | .getOr text _ | .has text | .rewrite text _ =>
    exact ⟨hnamed text, named_scopes s text⟩
  | .create text tenant? => exact ⟨(h.create tenant?).name (by simp [Contexts.create]) text, rfl⟩
  | .share text other => exact ⟨(hnamed text).name (h.openNamed text).2 other, named_scopes s text⟩
  | .set text t =>
    exact ⟨(h.openNamed text).1.put (h.openNamed text).2 (some t), named_scopes s text⟩
  | .clear text =>
    exact ⟨(h.openNamed text).1.put (h.openNamed text).2 none, named_scopes s text⟩
  | .guard text guard =>
    have hguard := (h.openNamed text).1.guard (h.openNamed text).2 guard
    rw [dropWrites, named_guards] at hguard
    exact ⟨hguard, (dropGuard_scopes _ guard).trans (named_scopes s text)⟩
  | .guarded guard =>
    rw [run_guarded]
    exact ⟨hnothing, rfl⟩
  | .drop guard => exact ⟨h.dropGuard guard, dropGuard_scopes s guard⟩
  | .current name? =>
    rw [run_current]
    cases hcurrent : s.contexts.current? with
    | none => exact ⟨hnothing, rfl⟩
    | some c =>
      have hknown := h.opened c (List.mem_of_mem_head? hcurrent)
      cases name? with
      | none => exact ⟨hnothing, rfl⟩
      | some text => exact ⟨hnothing.name hknown text, rfl⟩
  | .scope text ending steps =>
    have hinside := (h.openNamed text).1.enter (h.openNamed text).2
    obtain ⟨hrun, hscopes⟩ := recorded_runAll steps _ ws hinside
    rw [run_scope, writes_scope, ← List.append_assoc]
    refine ⟨hrun.leave hscopes, ?_⟩
    rw [leave_scopes, hscopes]
    exact named_scopes s text
  | .connect connection text =>
    exact ⟨(hnamed text).connected _, named_scopes s text⟩
  | .connectCurrent connection =>
    rw [run_connectCurrent]
    cases hcurrent : s.contexts.current? with
    | none => exact ⟨(h.create none).connected _, rfl⟩
    | some c => exact ⟨hnothing.connected _, rfl⟩
  | .submit connection _ _ =>
    rw [run_submit]
    exact ⟨hnothing, rfl⟩

lemma recorded_runAll (steps : List Step) (s : Session) (ws : List Write) (h : Recorded s ws) :
    Recorded (runAll p steps s).2 (ws ++ writesAll p steps s) ∧
      (runAll p steps s).2.contexts.scopes = s.contexts.scopes := by
  match steps with
  | [] => exact ⟨(List.append_nil ws).symm ▸ h, rfl⟩
  | step :: steps =>
    obtain ⟨hstep, hscopes⟩ := recorded_run step s ws h
    obtain ⟨hsteps, hscopes'⟩ := recorded_runAll steps _ _ hstep
    rw [runAll_cons, writesAll, ← List.append_assoc]
    exact ⟨hsteps, hscopes'.trans hscopes⟩

end

/-- A scope that is left gives the current context back, its own is empty, and nothing else than
the writes shows in the others. -/
def Exit.Releases (x : Exit) : Prop :=
  x.left.contexts.current? = x.entered.contexts.current? ∧
    x.left.contexts.tenant? x.context = none ∧
    ∀ c, c ≠ x.context → x.left.contexts.tenant? c = lastWritten c x.written

lemma releases_scope (text : String) (ending : Ending) (steps : List Step) (s : Session)
    (ws : List Write) (h : Recorded s ws) :
    Exit.Releases ⟨(named text s).1, s, ((Step.scope text ending steps).run p s).2,
      ws ++ (Step.scope text ending steps).writes p s⟩ := by
  obtain ⟨hrun, hscopes⟩ := recorded_run p (.scope text ending steps) s ws h
  refine ⟨congrArg List.head? hscopes, ?_, fun c _ => hrun.held c⟩
  rw [hrun.held, writes_scope, ← List.append_assoc, lastWritten_append, if_pos rfl]

mutual

lemma releases_exits (step : Step) (s : Session) (ws : List Write) (h : Recorded s ws) :
    ∀ x ∈ step.exits p s ws, x.Releases := by
  cases step
  case scope text ending steps =>
    rw [exits_scope]
    intro x hx
    rcases List.mem_append.mp hx with hx | hx
    · have hinside := (h.openNamed text).1.enter (h.openNamed text).2
      exact releases_exitsAll steps _ ws hinside x hx
    · rw [List.mem_singleton.mp hx]
      exact releases_scope p text ending steps s ws h
  all_goals exact fun x hx => nomatch hx

lemma releases_exitsAll (steps : List Step) (s : Session) (ws : List Write) (h : Recorded s ws) :
    ∀ x ∈ exitsAll p steps s ws, x.Releases := by
  match steps with
  | [] => exact fun x hx => nomatch hx
  | step :: steps =>
    intro x hx
    rcases List.mem_append.mp hx with hx | hx
    · exact releases_exits step s ws h x hx
    · exact releases_exitsAll steps _ _ (recorded_run p step s ws h).1 x hx

end

theorem releases_of_mem_exitsAll (p : Policy) (steps : List Step) :
    (∀ x ∈ exitsAll p steps {} [],
      x.left.contexts.current? = x.entered.contexts.current? ∧
        x.left.contexts.tenant? x.context = none ∧
        ∀ c, c ≠ x.context → x.left.contexts.tenant? c = lastWritten c x.written) ∧
      (runAll p steps {}).2.contexts.current? = none :=
  ⟨releases_exitsAll p steps {} [] recorded_nil,
    congrArg List.head? (recorded_runAll p steps {} [] recorded_nil).2⟩

/-- Two scopes on one context, the inner one opened under another name of it. -/
example (p : Policy) (t : TenantId) :
    (exitsAll p [.create "a" (some t), .scope "a" .finished [.share "a" "b", .scope "b" .failed []]]
      {} []).map (fun x => (x.context.index, x.written.length)) = [(0, 2), (0, 3)] := rfl

end Programs

end RowFence.Session
