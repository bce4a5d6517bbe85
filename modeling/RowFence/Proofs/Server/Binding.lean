import RowFence.Proofs.Server.Boundary

/-! The tenant that a request is bound to comes to the endpoints in two ways: with the request, and
as the current context. Both tell the same tenant. -/

namespace RowFence.App

open Http Json

variable (app : App) (o : Occasion) (r : Request)

/-- What comes with a request that is bound to a tenant. -/
def bound (t : TenantId) : Passage :=
  ⟨⟨[some t], [⟨0⟩]⟩, some ⟨0⟩, some (app.resolver.resolve app.policy r)⟩

lemma binding_bound {t : TenantId} {s : TenantSource}
    (hsource : (app.resolver.resolve app.policy r).source? = some s) :
    TenantBinding.ofRequest? (app.bound r t).contexts (app.bound r t).context? (app.bound r t).resolved? =
      some ⟨⟨0⟩, t, s⟩ := by
  simp [TenantBinding.ofRequest?, bound, Contexts.tenant?, hsource]

lemma currentTenant?_bound (t : TenantId) : (app.bound r t).contexts.currentTenant? = some t := rfl

section Answers

variable {app o r} {p : Passage}

lemma status_respond_of_passes (hmethod : r.method ≠ "OPTIONS")
    (hpass : app.boundary (app.dispatch o) (app.numbered o r) = app.dispatch o p (app.numbered o r)) :
    (app.respond o r).status = (app.dispatch o p (app.numbered o r)).status := by
  rw [app.status_respond o r fun h => absurd h hmethod, hpass]

lemma body_respond_of_passes (hmethod : r.method ≠ "OPTIONS") (hhead : r.method ≠ "HEAD")
    (hpass : app.boundary (app.dispatch o) (app.numbered o r) = app.dispatch o p (app.numbered o r)) :
    (app.respond o r).body = (app.dispatch o p (app.numbered o r)).body := by
  rw [app.body_respond o r fun h => absurd h hmethod, if_neg hhead, hpass]

lemma dispatch_tenant (hpath : r.uri.path = "/api/tenant") (hmethod : r.method = "GET") :
    app.dispatch o p r = Endpoint.answerTenant app p := by
  simp only [dispatch, hpath, hmethod]
  rfl

lemma dispatch_scopePreview (hpath : r.uri.path = "/api/sql/rewrite") (hmethod : r.method = "POST") :
    app.dispatch o p r = Endpoint.answerScopePreview app p r := by
  simp only [dispatch, hpath, hmethod]
  rfl

lemma boundary_of_resolved (hyphenated : '-' ∈ o.requestId.toList) (henabled : app.policy.enabled = true)
    (hpath : app.policy.excludesPath r.uri.path = false) {t : TenantId}
    (ht : (app.resolver.resolve app.policy r).tenant? = some t) (next : Passage → Request → Response) :
    app.boundary next (app.numbered o r) = next (app.bound r t) (app.numbered o r) := by
  rw [← app.numbered_uri o r] at hpath
  rw [app.boundary_of_bound _ next henabled hpath, app.resolve_numbered o r hyphenated, ht]
  rfl

/-- `GET /api/tenant` shows this value. -/
def ShowsTenant (app : App) (o : Occasion) (r : Request) (tenant source : Value) : Prop :=
  r.uri.path = "/api/tenant" → r.method = "GET" →
    (app.respond o r).status = 200 ∧
      (app.respond o r).body = .json (.object [("tenant_id", tenant), ("source", source),
        ("isolation_enabled", .bool app.policy.enabled)])

/-- `POST /api/sql/rewrite` shows what becomes of the statement in its body for this tenant, or why
it is refused. -/
def ShowsOutcome (app : App) (o : Occasion) (r : Request) (tenant? : Option TenantId) : Prop :=
  r.uri.path = "/api/sql/rewrite" → r.method = "POST" →
    ∀ sql, r.readField "struct RewriteRequest" "sql" = .ok sql →
      match app.policy.outcome tenant? sql with
      | .ok outcome =>
        (app.respond o r).status = 200 ∧ (app.respond o r).body = .json (Endpoint.preview outcome)
      | .error refusal =>
        (app.respond o r).status = 422 ∧
          (app.respond o r).body = .json (Problem.unprocessable refusal.message).toJson

lemma showsTenant_of_passes
    (hpass : app.boundary (app.dispatch o) (app.numbered o r) = app.dispatch o p (app.numbered o r)) :
    app.ShowsTenant o r
      (((TenantBinding.ofRequest? p.contexts p.context? p.resolved?).map (·.tenant.toJson)).getD .null)
      (((TenantBinding.ofRequest? p.contexts p.context? p.resolved?).map
        fun b => Value.string b.source.name).getD .null) := by
  intro hpath hmethod
  have hpath' := hpath
  have hmethod' := hmethod
  rw [← app.numbered_uri o r] at hpath'
  rw [← app.numbered_method o r] at hmethod'
  rw [status_respond_of_passes (by simp [hmethod]) hpass,
    body_respond_of_passes (by simp [hmethod]) (by simp [hmethod]) hpass,
    dispatch_tenant hpath' hmethod']
  exact ⟨rfl, rfl⟩

lemma showsOutcome_of_passes
    (hpass : app.boundary (app.dispatch o) (app.numbered o r) = app.dispatch o p (app.numbered o r)) :
    app.ShowsOutcome o r p.contexts.currentTenant? := by
  intro hpath hmethod sql hbody
  have hpath' := hpath
  have hmethod' := hmethod
  rw [← app.numbered_uri o r] at hpath'
  rw [← app.numbered_method o r] at hmethod'
  rw [← app.readField_numbered o r] at hbody
  rw [status_respond_of_passes (by simp [hmethod]) hpass,
    body_respond_of_passes (by simp [hmethod]) (by simp [hmethod]) hpass,
    dispatch_scopePreview hpath' hmethod']
  simp only [Endpoint.answerScopePreview, hbody]
  cases app.policy.outcome p.contexts.currentTenant? sql <;> exact ⟨rfl, rfl⟩

end Answers

theorem shows_resolved_tenant (app : App) (o : Occasion) (r : Request)
    (hyphenated : '-' ∈ o.requestId.toList) :
    (app.policy.enabled = true → app.policy.excludesPath r.uri.path = false →
        ∀ t s, (app.resolver.resolve app.policy r).tenant? = some t →
          (app.resolver.resolve app.policy r).source? = some s →
          app.ShowsTenant o r t.toJson (.string s.name) ∧ app.ShowsOutcome o r (some t)) ∧
      (app.policy.enabled = false ∨ app.policy.excludesPath r.uri.path = true →
        app.ShowsTenant o r .null .null ∧ app.ShowsOutcome o r none ∧
          ∀ sql, app.policy.outcome none sql = .ok ⟨sql, 0, some .noTenant⟩) := by
  constructor
  · intro henabled hpath t s ht hs
    have hpass := boundary_of_resolved hyphenated henabled hpath ht (app.dispatch o)
    have hshows := showsTenant_of_passes hpass
    rw [app.binding_bound r hs] at hshows
    exact ⟨hshows, showsOutcome_of_passes hpass⟩
  · intro hunbound
    rw [← app.numbered_uri o r] at hunbound
    have hpass := app.boundary_of_unbound _ (app.dispatch o) hunbound
    exact ⟨showsTenant_of_passes hpass, showsOutcome_of_passes hpass, fun _ => rfl⟩

/-! Requests with a header field for their tenant, to a server that isolates tenants and to one that
does not. -/

def openApp : App := { plainApp with policy := .usual }

def headedRequest (method path body : String) : Request :=
  ⟨method, ⟨none, "", path, none⟩, [("x-tenant-id", "7"), ("content-type", "application/json")], none,
    body⟩

def previewRequest : Request :=
  headedRequest "POST" "/api/sql/rewrite" "\x7b\"sql\": \"SELECT * FROM orders\"\x7d"

theorem shows_resolved_tenant_headed :
    (plainApp.respond plainOccasion (headedRequest "GET" "/api/tenant" "")).body =
        .json (.object [("tenant_id", .int 7), ("source", .string "header"),
          ("isolation_enabled", .bool true)]) ∧
      (openApp.respond plainOccasion previewRequest).body =
        .json (.object [("sql", .string "SELECT * FROM orders"), ("predicates_added", .int 0),
          ("scoped", .bool false), ("reason", .string "no_tenant")]) := by
  constructor
  · have hshows := (shows_resolved_tenant plainApp plainOccasion (headedRequest "GET" "/api/tenant" "")
      (by decide)).1 rfl (by decide) ⟨7, by decide, by decide⟩ .header (by decide) (by decide)
    exact (hshows.1 rfl rfl).2
  · have hshows := (shows_resolved_tenant openApp plainOccasion previewRequest (by decide)).2 (.inl rfl)
    exact (hshows.2.1 rfl rfl "SELECT * FROM orders" (by decide +kernel)).2

end RowFence.App
