import Mathlib.Data.List.Basic
import RowFence.Proofs.Text.Blank
import RowFence.Server.App

/-! The tenant boundary stands around all endpoints. A request that needs a tenant and names none is
told so, whatever it asks for, and no other request is. -/

namespace RowFence

namespace TenantId

lemma ofText_eq_error {s : String} {c : Char} (hc : c ∈ s.toList) (hdigit : c.isDigit = false)
    (hplus : c ≠ '+') (hblank : Text.isBlank c = false) :
    ofText s = .error ⟨String.ofList (Text.trimChars s.toList)⟩ := by
  obtain ⟨ws, ws', hws, hws', hs⟩ := Text.exists_eq_append_trimChars s.toList
  have hmem : c ∈ Text.trimChars s.toList := by
    rw [hs] at hc
    rcases List.mem_append.mp hc with hc | hc
    · exact absurd (hws c hc) (by simp [hblank])
    · rcases List.mem_append.mp hc with hc | hc
      · exact hc
      · exact absurd (hws' c hc) (by simp [hblank])
  have hdecimal (cs : List Char) (h : c ∈ cs) : Text.decimal? cs = none := by
    have hall : cs.all Char.isDigit = false := List.all_eq_false.mpr ⟨c, h, by simp [hdigit]⟩
    simp [Text.decimal?, hall]
  have hdigits : ofDigits? (Text.trimChars s.toList) = none := by
    unfold ofDigits?
    split
    · rename_i rest heq
      rw [heq] at hmem
      simp only [hdecimal rest ((List.mem_cons.mp hmem).resolve_left hplus), Option.bind_none]
    · simp only [hdecimal _ hmem, Option.bind_none]
  simp [ofText, hdigits]

end TenantId

namespace App

open Http

variable (app : App) (o : Occasion) (r : Request)

/-- A request as it comes to the boundary, with a number of its own. -/
def numbered : Request :=
  if app.config.requestIdsEnabled && (r.headers.first? RequestId.headerName).isNone then
    { r with headers := r.headers ++ [(RequestId.headerName, o.requestId)] }
  else r

lemma numbered_method : (app.numbered o r).method = r.method := by
  unfold numbered
  split <;> rfl

lemma numbered_uri : (app.numbered o r).uri = r.uri := by
  unfold numbered
  split <;> rfl

lemma numbered_identity : (app.numbered o r).identity? = r.identity? := by
  unfold numbered
  split <;> rfl

lemma numbered_first? {name : String} (hname : lowered name ≠ RequestId.headerName) :
    (app.numbered o r).headers.first? name = r.headers.first? name := by
  unfold numbered
  split
  · have hbeq : (lowered name == RequestId.headerName) = false := by simpa using hname
    simp [Headers.first?, List.lookup_append, List.lookup_cons, hbeq]
  · rfl

/-- A fresh number is no tenant, so a request gets none from its number. -/
lemma extract?_numbered (p : Policy) (e : TenantExtractor) (hyphenated : '-' ∈ o.requestId.toList) :
    e.extract? p (app.numbered o r) = e.extract? p r := by
  cases e with
  | header =>
    by_cases hname : lowered p.tenantIdHeader = RequestId.headerName
    · unfold numbered
      split
      · rename_i h
        have hnone : r.headers.first? p.tenantIdHeader = none := by
          have hfirst := (Bool.and_eq_true_iff.mp h).2
          rw [Option.isNone_iff_eq_none] at hfirst
          rwa [Headers.first?, hname]
        have hid := TenantId.ofText_eq_error hyphenated (by decide) (by decide) (by decide)
        have hafter : Headers.first? (r.headers ++ [(RequestId.headerName, o.requestId)])
            p.tenantIdHeader = some o.requestId := by
          rw [Headers.first?, hname] at hnone
          simp [Headers.first?, List.lookup_append, hnone, hname]
        simp only [TenantExtractor.extract?, TenantExtractor.ofHeader?, Headers.text?, hnone, hafter]
        cases hplain : isPlain o.requestId <;> simp [Option.filter, hplain, hid, Except.toOption]
      · rfl
    · simp only [TenantExtractor.extract?, TenantExtractor.ofHeader?, Headers.text?,
        numbered_first? app o r hname]
  | identity =>
    simp only [TenantExtractor.extract?, TenantExtractor.ofIdentity?, numbered_identity]
  | subdomain d =>
    have hhost : lowered "host" ≠ RequestId.headerName := by decide
    simp only [TenantExtractor.extract?, TenantExtractor.ofHost?, TenantExtractor.host?,
      Headers.text?, numbered_first? app o r hhost, numbered_uri]

lemma resolve_numbered (hyphenated : '-' ∈ o.requestId.toList) :
    app.resolver.resolve app.policy (app.numbered o r) = app.resolver.resolve app.policy r := by
  simp only [TenantResolver.resolve, extract?_numbered app o r app.policy _ hyphenated]

lemma readField_numbered (title field : String) :
    (app.numbered o r).readField title field = r.readField title field := by
  have htype : lowered "content-type" ≠ RequestId.headerName := by decide
  have hbody : (app.numbered o r).body = r.body := by
    unfold numbered
    split <;> rfl
  simp only [Request.readField, Request.readJson, Request.isJson, Headers.text?,
    numbered_first? app o r htype, hbody]
  rfl

/-- What layers around the boundary do to an answer: they add header fields. -/
structure Keeps (answer inner : Response) : Prop where
  status : answer.status = inner.status
  body : answer.body = inner.body

lemma keeps_withNewHeader (answer : Response) (name value : String) :
    Keeps (answer.withNewHeader name value) answer := by
  unfold Response.withNewHeader
  split <;> exact ⟨rfl, rfl⟩

lemma numbering_keeps (inner : Request → Response) :
    Keeps ((if app.config.requestIdsEnabled then RequestId.layer o.requestId inner else inner) r)
      (inner (app.numbered o r)) := by
  unfold numbered
  cases app.config.requestIdsEnabled with
  | false => exact ⟨rfl, rfl⟩
  | true =>
    cases hfirst : r.headers.first? RequestId.headerName with
    | none =>
      simp only [RequestId.layer, hfirst, Option.isNone_none, Bool.and_true, if_true]
      exact keeps_withNewHeader _ _ _
    | some id =>
      simp only [RequestId.layer, hfirst, Option.isNone_some, Bool.and_false, if_true]
      exact keeps_withNewHeader _ _ _

/-- No rules for other origins answer a request before it comes to the boundary. -/
def AnswersInside : Prop :=
  r.method = "OPTIONS" → ∀ cors, cors? app.config ≠ .ok (some cors)

lemma layers_keeps (h : app.AnswersInside r) :
    Keeps (app.layers o r) (app.boundary (app.dispatch o) (app.numbered o r)) := by
  have hnumbering := app.numbering_keeps o r (app.boundary (app.dispatch o))
  unfold layers
  generalize (if app.config.requestIdsEnabled then
    RequestId.layer o.requestId (app.boundary (app.dispatch o))
    else app.boundary (app.dispatch o)) = numbering at hnumbering ⊢
  cases hcors : cors? app.config with
  | error => exact hnumbering
  | ok cors? =>
    cases cors? with
    | none => exact hnumbering
    | some cors =>
      have hmethod : r.method ≠ "OPTIONS" := fun hoptions => h hoptions cors hcors
      simp only [Cors.layer, if_neg hmethod]
      exact ⟨hnumbering.status, hnumbering.body⟩

lemma respond_eq : ∃ answer, Keeps answer (app.layers o r) ∧
    app.respond o r = if r.method = "HEAD" then answer.withoutBody else answer := by
  unfold respond
  cases otherMethods? r with
  | none => exact ⟨app.layers o r, ⟨rfl, rfl⟩, rfl⟩
  | some methods => exact ⟨_, keeps_withNewHeader (app.layers o r) "allow" methods, rfl⟩

lemma status_respond (h : app.AnswersInside r) :
    (app.respond o r).status = (app.boundary (app.dispatch o) (app.numbered o r)).status := by
  obtain ⟨answer, hkeeps, hrespond⟩ := app.respond_eq o r
  rw [← (app.layers_keeps o r h).status, ← hkeeps.status, hrespond]
  split <;> rfl

lemma body_respond (h : app.AnswersInside r) :
    (app.respond o r).body = if r.method = "HEAD" then .empty
      else (app.boundary (app.dispatch o) (app.numbered o r)).body := by
  obtain ⟨answer, hkeeps, hrespond⟩ := app.respond_eq o r
  rw [← (app.layers_keeps o r h).body, ← hkeeps.body, hrespond]
  split <;> rfl

section Boundary

variable (next : Passage → Request → Response)

lemma boundary_of_unbound (h : app.policy.enabled = false ∨ app.policy.excludesPath r.uri.path = true) :
    app.boundary next r = next {} r := by
  rw [boundary, if_pos]
  rcases h with h | h <;> simp [h]

lemma resolve_of_silent (hrequired : app.policy.required = true)
    (hsources : ∀ e ∈ app.resolver.extractors, e.extract? app.policy r = none) :
    (app.resolver.resolve app.policy r).tenant? = none := by
  have hall : app.resolver.extractors.filterMap
      (fun e => (e.extract? app.policy r).map fun t => (e.source, t)) = [] :=
    List.filterMap_eq_nil_iff.mpr fun e he => by rw [hsources e he, Option.map_none]
  simp only [TenantResolver.resolve, hall, hrequired, if_true]

lemma resolve_of_source {e : TenantExtractor} {t : TenantId} (he : e ∈ app.resolver.extractors)
    (hsource : e.extract? app.policy r = some t) :
    ∃ u, (app.resolver.resolve app.policy r).tenant? = some u := by
  have hmem : (e.source, t) ∈ app.resolver.extractors.filterMap
      (fun e => (e.extract? app.policy r).map fun t => (e.source, t)) :=
    List.mem_filterMap.mpr ⟨e, he, by rw [hsource, Option.map_some]⟩
  simp only [TenantResolver.resolve]
  split
  · exact ⟨_, rfl⟩
  · rename_i hall
    rw [hall] at hmem
    cases hmem

lemma resolve_of_optional (hrequired : app.policy.required = false) :
    ∃ u, (app.resolver.resolve app.policy r).tenant? = some u := by
  simp only [TenantResolver.resolve, hrequired]
  split <;> exact ⟨_, rfl⟩

lemma boundary_of_bound (henabled : app.policy.enabled = true)
    (hpath : app.policy.excludesPath r.uri.path = false) :
    app.boundary next r =
      match (app.resolver.resolve app.policy r).tenant? with
      | none => (Problem.tenantRequired app.policy.tenantIdHeader).response
      | some t =>
        next ⟨⟨[some t], [⟨0⟩]⟩, some ⟨0⟩, some (app.resolver.resolve app.policy r)⟩ r := by
  rw [boundary, if_neg (by simp [henabled, hpath])]
  rfl

end Boundary

/-- No endpoint refuses a request with a JSON body: it answers with a status of its own. -/
lemma status_dispatch (p : Passage) (h : (app.dispatch o p r).status = 400) :
    r.method = "POST" ∧ ∃ s, (app.dispatch o p r).body = .text s := by
  revert h
  unfold dispatch
  cases hpath : Endpoint.ofPath? r.uri.path with
  | none => nofun
  | some e =>
    simp only
    cases haccepts : e.accepts r.method with
    | false => nofun
    | true =>
      have hpost (hmethods : e.methods = ["POST"]) : r.method = "POST" := by
        rw [Endpoint.accepts, hmethods] at haccepts
        simpa using haccepts
      cases e with
      | health => nofun
      | liveness => nofun
      | readiness =>
        simp only [if_true, Endpoint.answer, Endpoint.answerReadiness, Response.json]
        split <;> nofun
      | tenant => nofun
      | filterCheck =>
        simp only [if_true, Endpoint.answer, Endpoint.answerFilterCheck]
        split
        · exact fun _ => ⟨hpost rfl, _, rfl⟩
        · simp only [Response.json]
          split <;> nofun
      | scopePreview =>
        simp only [if_true, Endpoint.answer, Endpoint.answerScopePreview]
        split
        · exact fun _ => ⟨hpost rfl, _, rfl⟩
        · split <;> nofun

/-- Whether a request with this method is told that it needs a tenant, in a header field of this
name. An answer to `HEAD` has no body. -/
def WantsTenant (header method : String) (answer : Response) : Prop :=
  answer.status = 400 ∧
    answer.body = if method = "HEAD" then .empty else .json (Problem.tenantRequired header).toJson

lemma wantsTenant_respond (hyphenated : '-' ∈ o.requestId.toList)
    (henabled : app.policy.enabled = true) (hrequired : app.policy.required = true)
    (hpath : app.policy.excludesPath r.uri.path = false)
    (hsources : ∀ e ∈ app.resolver.extractors, e.extract? app.policy r = none)
    (hcors : app.AnswersInside r) :
    WantsTenant app.policy.tenantIdHeader r.method (app.respond o r) := by
  have hboundary : app.boundary (app.dispatch o) (app.numbered o r) =
      (Problem.tenantRequired app.policy.tenantIdHeader).response := by
    rw [← app.numbered_uri o r] at hpath
    rw [app.boundary_of_bound _ _ henabled hpath, app.resolve_numbered o r hyphenated,
      app.resolve_of_silent r hrequired hsources]
  rw [WantsTenant, app.status_respond o r hcors, app.body_respond o r hcors, hboundary]
  exact ⟨rfl, rfl⟩

lemma boundary_passes (hyphenated : '-' ∈ o.requestId.toList)
    (h : app.policy.enabled = false ∨ app.policy.excludesPath r.uri.path = true ∨
      (∃ e ∈ app.resolver.extractors, ∃ t, e.extract? app.policy r = some t) ∨
      app.policy.required = false) (next : Passage → Request → Response) :
    ∃ p, app.boundary next (app.numbered o r) = next p (app.numbered o r) := by
  by_cases hunbound : app.policy.enabled = false ∨ app.policy.excludesPath r.uri.path = true
  · rw [← app.numbered_uri o r] at hunbound
    exact ⟨_, app.boundary_of_unbound _ next hunbound⟩
  · obtain ⟨henabled, hpath⟩ := not_or.mp hunbound
    have hresolved : ∃ t, (app.resolver.resolve app.policy r).tenant? = some t := by
      rcases h with h | h | ⟨e, he, t, hsource⟩ | h
      · exact absurd h henabled
      · exact absurd h hpath
      · exact app.resolve_of_source r he hsource
      · exact app.resolve_of_optional r h
    obtain ⟨t, ht⟩ := hresolved
    rw [Bool.not_eq_false] at henabled
    rw [Bool.not_eq_true, ← app.numbered_uri o r] at hpath
    rw [app.boundary_of_bound _ _ henabled hpath, app.resolve_numbered o r hyphenated, ht]
    exact ⟨_, rfl⟩

lemma layers_of_options {cors : Cors} (hcors : cors? app.config = .ok (some cors))
    (hmethod : r.method = "OPTIONS") : app.layers o r = cors.preflight r := by
  simp only [layers, hcors, Cors.layer, if_pos hmethod]

lemma not_wantsTenant_respond (hyphenated : '-' ∈ o.requestId.toList)
    (h : app.policy.enabled = false ∨ app.policy.excludesPath r.uri.path = true ∨
      (∃ e ∈ app.resolver.extractors, ∃ t, e.extract? app.policy r = some t) ∨
      app.policy.required = false) (header : String) :
    ¬ WantsTenant header r.method (app.respond o r) := by
  rintro ⟨hstatus, hbody⟩
  by_cases hcors : app.AnswersInside r
  · obtain ⟨p, hp⟩ := app.boundary_passes o r hyphenated h (app.dispatch o)
    rw [app.status_respond o r hcors, hp] at hstatus
    obtain ⟨hmethod, s, htext⟩ := app.status_dispatch o _ p hstatus
    rw [app.body_respond o r hcors, hp, htext] at hbody
    rw [numbered_method] at hmethod
    simp [hmethod] at hbody
  · obtain ⟨hmethod, cors, hsome⟩ : r.method = "OPTIONS" ∧ ∃ cors, cors? app.config = .ok (some cors) := by
      simpa [AnswersInside] using hcors
    obtain ⟨answer, hkeeps, hrespond⟩ := app.respond_eq o r
    rw [hrespond, if_neg (by rw [hmethod]; decide), hkeeps.status,
      app.layers_of_options o r hsome hmethod] at hstatus
    cases hstatus

/-- The boundary stands before every endpoint. A fresh number of a request is a UUID, which has
hyphens in it. -/
theorem wantsTenant_respond_of_silent (app : App) (o : Occasion) (r : Request)
    (hyphenated : '-' ∈ o.requestId.toList) :
    (app.policy.enabled = true → app.policy.required = true →
        app.policy.excludesPath r.uri.path = false →
        (∀ e ∈ app.resolver.extractors, e.extract? app.policy r = none) →
        ¬ (r.method = "OPTIONS" ∧ app.config.corsEnabled = true) →
        WantsTenant app.policy.tenantIdHeader r.method (app.respond o r)) ∧
      (∀ cors, cors? app.config = .ok (some cors) → r.method = "OPTIONS" →
        app.layers o r = cors.preflight r) ∧
      (app.policy.enabled = false ∨ app.policy.excludesPath r.uri.path = true ∨
          (∃ e ∈ app.resolver.extractors, ∃ t, e.extract? app.policy r = some t) ∨
          app.policy.required = false →
        ∀ header, ¬ WantsTenant header r.method (app.respond o r)) := by
  refine ⟨fun henabled hrequired hpath hsources hoptions => ?_,
    fun cors hcors hmethod => app.layers_of_options o r hcors hmethod,
    app.not_wantsTenant_respond o r hyphenated⟩
  refine app.wantsTenant_respond o r hyphenated henabled hrequired hpath hsources ?_
  intro hmethod cors hcors
  have hdisabled : app.config.corsEnabled = false := by simpa [hmethod] using hoptions
  simp [cors?, hdisabled] at hcors

/-! A server that wants a tenant, and a request that names none. -/

def plainApp : App := .ofPolicy .trial .usualEnabled {} .absent

def plainOccasion : Occasion := ⟨"2024-01-01T00:00:00Z", "f81d4fae-7dec-11d0-a765-00a0c91e6bf6"⟩

def plainRequest (method path : String) : Request := ⟨method, ⟨none, "", path, none⟩, [], none, ""⟩

theorem wantsTenant_respond_plain :
    WantsTenant "X-Tenant-Id" "POST"
        (plainApp.respond plainOccasion (plainRequest "POST" "/api/sql/rewrite")) ∧
      ¬ WantsTenant "X-Tenant-Id" "GET" (plainApp.respond plainOccasion (plainRequest "GET" "/health")) :=
  ⟨(wantsTenant_respond_of_silent plainApp plainOccasion (plainRequest "POST" "/api/sql/rewrite")
      (by decide)).1 rfl rfl (by decide) (by decide) (by decide),
    (wantsTenant_respond_of_silent plainApp plainOccasion (plainRequest "GET" "/health")
      (by decide)).2.2 (.inr (.inl (by decide))) "X-Tenant-Id"⟩

/-- To `HEAD` the header of the tenant is not named: the answer has no body. -/
theorem body_respond_head :
    plainApp.policy.enabled = true ∧ plainApp.policy.required = true ∧
      plainApp.policy.excludesPath "/api/tenant" = false ∧
      (∀ e ∈ plainApp.resolver.extractors,
        e.extract? plainApp.policy (plainRequest "HEAD" "/api/tenant") = none) ∧
      (plainApp.respond plainOccasion (plainRequest "HEAD" "/api/tenant")).body ≠
        .json (Problem.tenantRequired plainApp.policy.tenantIdHeader).toJson :=
  ⟨rfl, rfl, by decide, by decide, nofun⟩

end App

end RowFence
