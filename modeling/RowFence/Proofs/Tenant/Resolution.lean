import Mathlib.Data.List.Basic
import RowFence.Tenant.Resolver

/-! A request belongs to the tenant that the first of its sources names. Sources that name none are
passed over, and what those behind the first one name makes no difference. -/

namespace RowFence

namespace TenantId

/-- A number in digits, with a plus sign before them or without one. -/
def IsNumeral (cs : List Char) (n : Nat) : Prop :=
  ∃ digits, digits ≠ [] ∧ digits.all Char.isDigit = true ∧ Text.decimal digits = n ∧
    (cs = digits ∨ cs = '+' :: digits)

lemma ofNat?_eq_some_iff {n : Nat} {t : TenantId} : ofNat? n = some t ↔ n = t.value := by
  unfold ofNat?
  constructor
  · intro h
    split at h
    · exact congrArg value (Option.some.inj h)
    · cases h
  · rintro rfl
    rw [dif_pos ⟨t.positive, t.bounded⟩]

lemma decimal?_eq_some_iff {cs : List Char} {n : Nat} :
    Text.decimal? cs = some n ↔
      cs ≠ [] ∧ cs.all Char.isDigit = true ∧ Text.decimal cs = n := by
  unfold Text.decimal?
  rw [Option.ite_none_right_eq_some, Bool.and_eq_true, Bool.not_eq_true', Option.some_inj, and_assoc]
  simp only [List.isEmpty_eq_false_iff, ne_eq]

lemma ofDigits?_eq_some_iff {cs : List Char} {t : TenantId} :
    ofDigits? cs = some t ↔ IsNumeral cs t.value := by
  have hread (digits : List Char) : (Text.decimal? digits).bind ofNat? = some t ↔
      digits ≠ [] ∧ digits.all Char.isDigit = true ∧ Text.decimal digits = t.value := by
    rw [Option.bind_eq_some_iff]
    simp only [ofNat?_eq_some_iff, decimal?_eq_some_iff]
    exact ⟨fun ⟨n, h, hn⟩ => hn ▸ h, fun h => ⟨_, h, rfl⟩⟩
  unfold ofDigits?
  split
  · rename_i rest
    rw [hread]
    constructor
    · exact fun ⟨hne, hall, hvalue⟩ => ⟨rest, hne, hall, hvalue, .inr rfl⟩
    · rintro ⟨digits, hne, hall, hvalue, rfl | hcs⟩
      · exact absurd (List.all_eq_true.mp hall '+' List.mem_cons_self) (by decide)
      · obtain rfl : rest = digits := List.tail_eq_of_cons_eq hcs
        exact ⟨hne, hall, hvalue⟩
  · rename_i hplus
    rw [hread]
    constructor
    · exact fun ⟨hne, hall, hvalue⟩ => ⟨cs, hne, hall, hvalue, .inl rfl⟩
    · rintro ⟨digits, hne, hall, hvalue, rfl | hcs⟩
      · exact ⟨hne, hall, hvalue⟩
      · exact absurd hcs (hplus digits)

/-- A text is read as a tenant just in case it is a numeral once the blanks around it are taken
away. -/
lemma toOption_ofText_eq_some_iff {s : String} {t : TenantId} :
    (ofText s).toOption = some t ↔ IsNumeral (Text.trimChars s.toList) t.value := by
  rw [← ofDigits?_eq_some_iff]
  simp only [ofText]
  cases ofDigits? (Text.trimChars s.toList) with
  | none => exact ⟨nofun, nofun⟩
  | some u => rfl

lemma ofInt?_eq_some_iff {i : Int} {t : TenantId} : ofInt? i = some t ↔ i = t.value := by
  cases i with
  | ofNat n =>
    rw [ofInt?, ofNat?_eq_some_iff]
    exact Int.ofNat_inj.symm
  | negSucc n => exact ⟨nofun, nofun⟩

end TenantId

namespace TenantExtractor

/-- What a request says of its tenant, source by source: a numeral in the header field of the policy, a
tenant of the sender that is an identifier, or the code of a registered tenant in its host. -/
inductive Names (p : Policy) (r : Http.Request) : TenantExtractor → TenantId → Prop where
  | header {value : String} {t : TenantId}
      (present : r.headers.text? p.tenantIdHeader = some value)
      (numeral : TenantId.IsNumeral (Text.trimChars value.toList) t.value) : Names p r .header t
  | identity {sender : Http.Identity} {t : TenantId} (present : r.identity? = some sender)
      (valid : sender.tenant? = some (t.value : Int)) : Names p r .identity t
  | subdomain {d : TenantDirectory} {host : String} {name code : List Char} {t : TenantId}
      (present : host? r = some host) (named : hostName? host.toList = some name)
      (coded : subdomain? name = some code) (registered : d.lookup (String.ofList code) = some t) :
      Names p r (.subdomain d) t

/-- A source that is malformed or unknown is passed over like one that is missing. -/
lemma extract?_eq_some_iff {p : Policy} {r : Http.Request} {e : TenantExtractor} {t : TenantId} :
    e.extract? p r = some t ↔ Names p r e t := by
  cases e with
  | header =>
    simp only [extract?, ofHeader?, Option.bind_eq_bind, Option.bind_eq_some_iff,
      TenantId.toOption_ofText_eq_some_iff]
    exact ⟨fun ⟨_, hp, hn⟩ => .header hp hn, fun (.header hp hn) => ⟨_, hp, hn⟩⟩
  | identity =>
    simp only [extract?, ofIdentity?, Option.bind_eq_bind, Option.bind_eq_some_iff,
      TenantId.ofInt?_eq_some_iff]
    exact ⟨fun ⟨_, hp, _, hv, h⟩ => .identity hp (h ▸ hv), fun (.identity hp hv) => ⟨_, hp, _, hv, rfl⟩⟩
  | subdomain d =>
    simp only [extract?, ofHost?, Option.bind_eq_bind, Option.bind_eq_some_iff]
    exact ⟨fun ⟨_, hp, _, hn, _, hc, hr⟩ => .subdomain hp hn hc hr,
      fun (.subdomain hp hn hc hr) => ⟨_, hp, _, hn, _, hc, hr⟩⟩

end TenantExtractor

lemma ResolvedTenant.hasConflict_iff (x : ResolvedTenant) :
    x.hasConflict = true ↔ ∃ a ∈ x.all, ∃ b ∈ x.all, a.2 ≠ b.2 := by
  unfold hasConflict
  split
  · rename_i hall
    simp [hall]
  · rename_i s t rest hall
    simp only [hall, List.any_eq_true, bne_iff_ne, ne_eq]
    constructor
    · rintro ⟨a, ha, hne⟩
      exact ⟨a, List.mem_cons_of_mem _ ha, (s, t), List.mem_cons_self, hne⟩
    · rintro ⟨a, ha, b, hb, hne⟩
      by_cases hat : a.2 = t
      · refine ⟨b, (List.mem_cons.mp hb).resolve_left ?_, fun hbt => hne (hat.trans hbt.symm)⟩
        rintro rfl
        exact hne hat
      · refine ⟨a, (List.mem_cons.mp ha).resolve_left ?_, hat⟩
        rintro rfl
        exact hat rfl

namespace TenantResolver

section Sources

variable (p : Policy) (r : Http.Request)

lemma all_resolve (x : TenantResolver) : (x.resolve p r).all =
    x.extractors.filterMap fun e => (e.extract? p r).map fun t => (e.source, t) := by
  simp only [resolve]
  split
  · rename_i s t rest hall
    rw [hall]
  · rename_i hall
    rw [hall]
    split <;> rfl

variable {p r} {e : TenantExtractor}

lemma resolve_cons_of_none (h : e.extract? p r = none) (es : List TenantExtractor) :
    resolve ⟨e :: es⟩ p r = resolve ⟨es⟩ p r := by
  simp only [resolve, List.filterMap_cons, h, Option.map_none]

lemma resolve_cons_of_some {t : TenantId} (h : e.extract? p r = some t) (es : List TenantExtractor) :
    (resolve ⟨e :: es⟩ p r).tenant? = some t ∧ (resolve ⟨e :: es⟩ p r).source? = some e.source := by
  simp only [resolve, List.filterMap_cons, h, Option.map_some, and_self]

/-- The loop over the sources goes on behind those that name no tenant. -/
lemma resolve_append_of_none {before : List TenantExtractor}
    (h : ∀ e ∈ before, e.extract? p r = none) (es : List TenantExtractor) :
    resolve ⟨before ++ es⟩ p r = resolve ⟨es⟩ p r := by
  induction before with
  | nil => rfl
  | cons e before ih =>
    obtain ⟨he, hbefore⟩ := List.forall_mem_cons.mp h
    rw [List.cons_append, resolve_cons_of_none he, ih hbefore]

lemma resolve_of_none {x : TenantResolver} (h : ∀ e ∈ x.extractors, e.extract? p r = none) :
    x.resolve p r = if p.required then ⟨none, none, []⟩
      else ⟨some p.defaultTenant, some .default, []⟩ := by
  have hnone := resolve_append_of_none h []
  rw [List.append_nil] at hnone
  exact hnone

/-- Two runs that read the same up to a source that names a tenant come to the same. -/
lemma resolve_agrees {before : List TenantExtractor} {r' : Http.Request}
    (hagree : ∀ x ∈ before ++ [e], x.extract? p r' = x.extract? p r)
    (hnames : (e.extract? p r).isSome = true) (after after' : List TenantExtractor) :
    (resolve ⟨before ++ e :: after'⟩ p r').tenant? = (resolve ⟨before ++ e :: after⟩ p r).tenant? ∧
      (resolve ⟨before ++ e :: after'⟩ p r').source? =
        (resolve ⟨before ++ e :: after⟩ p r).source? := by
  have hfirst {x : TenantExtractor} {t : TenantId} (h : x.extract? p r = some t)
      (h' : x.extract? p r' = x.extract? p r) (es es' : List TenantExtractor) :
      (resolve ⟨x :: es'⟩ p r').tenant? = (resolve ⟨x :: es⟩ p r).tenant? ∧
        (resolve ⟨x :: es'⟩ p r').source? = (resolve ⟨x :: es⟩ p r).source? := by
    obtain ⟨htenant, hsource⟩ := resolve_cons_of_some h es
    obtain ⟨htenant', hsource'⟩ := resolve_cons_of_some (h'.trans h) es'
    exact ⟨htenant'.trans htenant.symm, hsource'.trans hsource.symm⟩
  induction before with
  | nil =>
    obtain ⟨t, ht⟩ := Option.isSome_iff_exists.mp hnames
    exact hfirst ht (hagree e List.mem_cons_self) after after'
  | cons x before ih =>
    obtain ⟨hx, hbefore⟩ := List.forall_mem_cons.mp hagree
    cases hnone : x.extract? p r with
    | none =>
      rw [List.cons_append, List.cons_append, resolve_cons_of_none (hx.trans hnone),
        resolve_cons_of_none hnone]
      exact ih hbefore
    | some t => exact hfirst hnone hx _ _

/-- The list of all sources goes along with the extractors that name a tenant. -/
lemma forall₂_all (x : TenantResolver) :
    List.Forall₂ (fun e found => found.1 = e.source ∧ e.extract? p r = some found.2)
      (x.extractors.filter fun e => (e.extract? p r).isSome) (x.resolve p r).all := by
  rw [all_resolve]
  induction x.extractors with
  | nil => exact .nil
  | cons e es ih =>
    rw [List.filter_cons, List.filterMap_cons]
    cases h : e.extract? p r with
    | none => exact ih
    | some t => exact .cons ⟨rfl, h⟩ ih

end Sources

/-- The first source that names a tenant decides, whatever is behind it. What a source names is told
apart from malformed and unknown values, which name nothing. -/
theorem resolve_first (x : TenantResolver) (p : Policy) (r : Http.Request) :
    let found := x.resolve p r
    (∀ e t, e.extract? p r = some t ↔ TenantExtractor.Names p r e t) ∧
      List.Forall₂ (fun e y => y.1 = e.source ∧ e.extract? p r = some y.2)
        (x.extractors.filter fun e => (e.extract? p r).isSome) found.all ∧
      (∀ before e after t, x.extractors = before ++ e :: after →
        (∀ b ∈ before, b.extract? p r = none) → e.extract? p r = some t →
          found.tenant? = some t ∧ found.source? = some e.source) ∧
      ((∀ e ∈ x.extractors, e.extract? p r = none) →
        found = if p.required then ⟨none, none, []⟩ else ⟨some p.defaultTenant, some .default, []⟩) ∧
      (found.hasConflict = true ↔ ∃ a ∈ found.all, ∃ b ∈ found.all, a.2 ≠ b.2) ∧
      (∀ (x' : TenantResolver) (r' : Http.Request) (before : List TenantExtractor) (e : TenantExtractor)
        (after after' : List TenantExtractor), x.extractors = before ++ e :: after →
          x'.extractors = before ++ e :: after' →
          (∀ b ∈ before ++ [e], b.extract? p r' = b.extract? p r) →
          (e.extract? p r).isSome = true →
            (x'.resolve p r').tenant? = found.tenant? ∧ (x'.resolve p r').source? = found.source?) ∧
      ∀ t, found.tenant? = some t → 0 < t.value := by
  refine ⟨fun e t => TenantExtractor.extract?_eq_some_iff, forall₂_all x, ?_, resolve_of_none,
    ResolvedTenant.hasConflict_iff _, ?_, fun t _ => t.positive⟩
  · intro before e after t hx hbefore he
    obtain ⟨extractors⟩ := x
    subst hx
    simp only [resolve_append_of_none hbefore]
    exact resolve_cons_of_some he after
  · intro x' r' before e after after' hx hx' hagree hnames
    obtain ⟨extractors⟩ := x
    obtain ⟨extractors'⟩ := x'
    subst hx hx'
    exact resolve_agrees hagree hnames after after'

/-! The sender has no valid tenant, the header field comes first of those that have one, and it is read
twice. The two requests differ in their hosts. -/

def mixedResolver : TenantResolver :=
  ⟨[.identity, .header, .subdomain (.ofList [("acme", .one)]), .header]⟩

def mixedRequest (host : String) : Http.Request where
  method := "GET"
  uri := ⟨none, "", "/", none⟩
  headers := [("x-tenant-id", " +7 "), ("host", host)]
  identity? := some ⟨"ada", some (-1)⟩
  body := ""

theorem resolve_first_mixed :
    let p : Policy := .usual
    let x := mixedResolver
    let found := x.resolve p (mixedRequest "acme.tessera.example")
    found.tenant?.map TenantId.value = some 7 ∧ found.source? = some .header ∧
      found.hasConflict = true ∧
      (x.resolve p (mixedRequest "localhost")).tenant? = found.tenant? := by
  intro p x found
  have hwins := resolve_first x p (mixedRequest "acme.tessera.example")
  obtain ⟨-, -, hfirst, -, hconflict, hagree, -⟩ := hwins
  have hseven := hfirst [.identity] .header [.subdomain (.ofList [("acme", .one)]), .header]
    ⟨7, by decide, by decide⟩ rfl (by decide) (by decide)
  refine ⟨by rw [hseven.1]; rfl, hseven.2, hconflict.mpr ?_, ?_⟩
  · exact ⟨(.header, ⟨7, by decide, by decide⟩), by decide, (.subdomain, .one), by decide, by decide⟩
  · exact (hagree x (mixedRequest "localhost") [.identity] .header _ _ rfl rfl (by decide) (by decide)).1

end TenantResolver

end RowFence
