import Mathlib.Data.List.Basic
import Mathlib.Tactic.Lemma
import RowFence.Server.App

/-! A configuration without faults has a policy. What can still stand in the way of a server is the
wildcard in a list of origins: the faults are looked for without regard to other origins. -/

namespace RowFence

open Http

namespace Http.Cors

/-- The wildcard as one origin of several, or with blanks around it. -/
def ListsWildcard (s : String) : Prop := s ≠ wildcard ∧ wildcard ∈ parts s

instance (s : String) : Decidable (ListsWildcard s) := inferInstanceAs (Decidable (_ ∧ _))

lemma isHeaderValue_wildcard : isHeaderValue wildcard = true := by decide

lemma origins?_eq_none_iff (s : String) : origins? s = none ↔ ListsWildcard s := by
  unfold origins? ListsWildcard
  by_cases hs : s = wildcard
  · simp [hs]
  · have hcontains : ((parts s).filter isHeaderValue).contains wildcard ↔ wildcard ∈ parts s := by
      rw [List.contains_iff_mem, List.mem_filter]
      exact and_iff_left isHeaderValue_wildcard
    rw [if_neg hs]
    by_cases h : ((parts s).filter isHeaderValue).contains wildcard = true
    · rw [if_pos h]
      exact iff_of_true rfl ⟨hs, hcontains.mp h⟩
    · rw [if_neg h]
      exact iff_of_false nofun fun hlists => h (hcontains.mpr hlists.2)

end Http.Cors

namespace App

/-- The settings for other origins from which no server can be built. -/
def RejectsOrigins (c : ServerConfig) : Prop :=
  c.corsEnabled = true ∧ Cors.ListsWildcard c.corsOrigins

instance (c : ServerConfig) : Decidable (RejectsOrigins c) := inferInstanceAs (Decidable (_ ∧ _))

lemma cors?_of_rejectsOrigins {c : ServerConfig} (h : RejectsOrigins c) :
    cors? c = .error .originList := by
  obtain ⟨henabled, hlists⟩ := h
  have hnone := (Cors.origins?_eq_none_iff c.corsOrigins).mpr hlists
  simp [cors?, Cors.ofTexts?, henabled, hnone]

lemma cors?_of_not_rejectsOrigins {c : ServerConfig} (h : ¬RejectsOrigins c) :
    ∃ cors, cors? c = .ok cors := by
  unfold cors?
  by_cases henabled : c.corsEnabled = true
  · have hsome : Cors.origins? c.corsOrigins ≠ none :=
      fun hnone => h ⟨henabled, (Cors.origins?_eq_none_iff _).mp hnone⟩
    obtain ⟨origins, horigins⟩ := Option.ne_none_iff_exists'.mp hsome
    simp [Cors.ofTexts?, henabled, horigins]
  · simp [henabled]

variable {c : ServerConfig} {files : Files} {p : Policy}

lemma create_of_policy (d : TenantDirectory) (database : Database)
    (hpolicy : c.policy files = .ok p) :
    create c files d database =
      if RejectsOrigins c then .error .originList else .ok (ofPolicy c p d database) := by
  unfold create
  rw [hpolicy]
  split
  · rename_i h
    rw [cors?_of_rejectsOrigins h]
    rfl
  · rename_i h
    obtain ⟨cors, hcors⟩ := cors?_of_not_rejectsOrigins h
    rw [hcors]
    rfl

end App

namespace ServerConfig

variable {c : ServerConfig} {files : Files}

lemma faults_of_policy_eq_error {e : ConfigError} (h : c.policy files = .error e) :
    c.faults files ≠ [] := by
  unfold faults
  rw [h]
  split <;> simp_all

lemma policy_of_faults_eq_nil (h : c.faults files = []) : ∃ p, c.policy files = .ok p := by
  cases hpolicy : c.policy files with
  | error e => exact absurd h (faults_of_policy_eq_error hpolicy)
  | ok p => exact ⟨p, rfl⟩

lemma isolation_of_policy {p : Policy} (h : c.policy files = .ok p) :
    ∃ i, c.isolation files = .ok i ∧ i.toPolicy = .ok p := by
  unfold policy at h
  cases hisolation : c.isolation files with
  | error e =>
    rw [hisolation] at h
    cases h
  | ok i =>
    rw [hisolation] at h
    exact ⟨i, rfl, h⟩

lemma text_of_isolation {i : IsolationConfig} (h : c.isolation files = .ok i) {path : String}
    (hpath : c.isolationFile? = some path) :
    ∃ text written, files.text path = .ok text ∧ IsolationConfig.ofText text = .ok written := by
  rw [isolation, hpath] at h
  unfold IsolationConfig.ofFile at h
  cases htext : files.text path with
  | error problem =>
    simp only [htext] at h
    cases h
  | ok text =>
    simp only [htext] at h
    cases hwritten : IsolationConfig.ofText text with
    | error e =>
      rw [hwritten] at h
      cases h
    | ok written => exact ⟨text, written, rfl, hwritten⟩

/-- A configuration without faults starts, unless it is one of those whose origins are rejected: its
file can be read and parsed, and its policy is accepted. One without a policy has faults. -/
theorem create_of_faults_eq_nil (c : ServerConfig) (files : Files) (d : TenantDirectory)
    (database : Database) :
    (c.faults files = [] →
      ∃ i p, c.isolation files = .ok i ∧ i.toPolicy = .ok p ∧
        (∀ path, c.isolationFile? = some path →
          ∃ text written, files.text path = .ok text ∧ IsolationConfig.ofText text = .ok written) ∧
        App.create c files d database =
          if App.RejectsOrigins c then .error .originList else .ok (App.ofPolicy c p d database)) ∧
      ∀ e, c.policy files = .error e → c.faults files ≠ [] := by
  refine ⟨fun h => ?_, fun e => faults_of_policy_eq_error⟩
  obtain ⟨p, hpolicy⟩ := policy_of_faults_eq_nil h
  obtain ⟨i, hisolation, htoPolicy⟩ := isolation_of_policy hpolicy
  exact ⟨i, p, hisolation, htoPolicy, fun path => text_of_isolation hisolation,
    App.create_of_policy d database hpolicy⟩

def isolationFile : Files where
  isFile path := path = "isolation.json"
  text path := if path = "isolation.json" then .ok "\x7b\x7d" else .error .missing

def withFile : ServerConfig := { isolationFile? := some "isolation.json" }

def withoutHeader : ServerConfig := { tenantIdHeader? := some "" }

theorem create_withFile :
    (withFile.faults isolationFile = [] ∧
        ∃ i p, withFile.isolation isolationFile = .ok i ∧ i.toPolicy = .ok p ∧
          App.create withFile isolationFile {} .absent =
            .ok (App.ofPolicy withFile p {} .absent)) ∧
      withoutHeader.policy isolationFile = .error (.policy (.headerName "")) ∧
        withoutHeader.faults isolationFile ≠ [] := by
  have hfaults : withFile.faults isolationFile = [] := by decide +kernel
  have hpolicy : withoutHeader.policy isolationFile = .error (.policy (.headerName "")) := by
    decide +kernel
  obtain ⟨i, p, hisolation, htoPolicy, -, hcreate⟩ :=
    (create_of_faults_eq_nil withFile isolationFile {} .absent).1 hfaults
  rw [if_neg (by decide)] at hcreate
  exact ⟨⟨hfaults, i, p, hisolation, htoPolicy, hcreate⟩, hpolicy,
    (create_of_faults_eq_nil withoutHeader isolationFile {} .absent).2 _ hpolicy⟩

def anyOriginAmongOthers : ServerConfig := { corsOrigins := "https://a.example,*" }

theorem create_anyOriginAmongOthers :
    anyOriginAmongOthers.faults (.ofList []) = [] ∧
      App.create anyOriginAmongOthers (.ofList []) {} .absent = .error .originList := by
  decide +kernel

end ServerConfig

end RowFence
