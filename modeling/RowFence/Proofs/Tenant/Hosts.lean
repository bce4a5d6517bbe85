import Mathlib.Data.List.TakeWhile
import RowFence.Proofs.Text.Split
import RowFence.Tenant.Resolver

/-! The spellings of a host name: in either letter case, with a port or without one, and with the root
label behind its last period. All of them name one tenant, but for the root label where it makes up a
third label or hides an address. -/

namespace RowFence

namespace TenantDirectory

lemma lookup_map_toLower (d : TenantDirectory) (cs : List Char) :
    d.lookup (String.ofList (cs.map Char.toLower)) = d.lookup (String.ofList cs) := by
  have hcode : canonicalCode (String.ofList (cs.map Char.toLower)) =
      canonicalCode (String.ofList cs) := by
    simp only [canonicalCode, String.toList_ofList, Text.trimChars_map_toLower, List.map_map]
    congr 1
    exact List.map_congr_left fun c _ => Text.toLower_toLower c
  rw [lookup, lookup, hcode]

end TenantDirectory

section Labels

def labels (host : List Char) : List (List Char) := Text.splitAt '.' host

def firstLabel (host : List Char) : List Char := (labels host).headD []

lemma labels_map_toLower (host : List Char) :
    labels (host.map Char.toLower) = (labels host).map (List.map Char.toLower) :=
  Text.splitAt_map (fun _ => Text.toLower_eq_iff (by decide) (by decide)) host

lemma labels_rooted (host : List Char) : labels (host ++ ['.']) = labels host ++ [[]] :=
  Text.splitAt_append_mark host []

lemma isOctet_map_toLower (cs : List Char) : isOctet (cs.map Char.toLower) = isOctet cs := by
  have hzero : (cs.map Char.toLower).head? = some '0' ↔ cs.head? = some '0' := by
    cases cs with
    | nil => exact Iff.rfl
    | cons c cs =>
      simp only [List.map_cons, List.head?_cons, Option.some_inj]
      exact Text.toLower_eq_iff (by decide) (by decide)
  have hhead : ((cs.map Char.toLower).head? != some '0') = (cs.head? != some '0') := by
    rw [Bool.eq_iff_iff, bne_iff_ne, bne_iff_ne, ne_eq, ne_eq, hzero]
  rw [isOctet, isOctet, List.length_map, Text.decimal?_map_toLower, hhead]

lemma isIpv4Address_map_toLower (host : List Char) :
    isIpv4Address (host.map Char.toLower) = isIpv4Address host := by
  have hlabels := labels_map_toLower host
  rw [labels, labels] at hlabels
  have hoctet : isOctet ∘ List.map Char.toLower = isOctet := funext isOctet_map_toLower
  simp only [isIpv4Address, hlabels, List.length_map, List.all_map, hoctet]

/-- The root label is no octet. -/
lemma isIpv4Address_rooted (host : List Char) : isIpv4Address (host ++ ['.']) = false := by
  have hlabels := labels_rooted host
  rw [labels] at hlabels
  have hroot : isOctet [] = false := by decide
  simp only [isIpv4Address, hlabels, List.all_append, List.all_cons, hroot, Bool.false_and,
    Bool.and_false]

lemma length_labels_of_isIpv4Address {host : List Char} (h : isIpv4Address host = true) :
    (labels host).length = 4 := by
  simp only [isIpv4Address, Bool.and_eq_true, decide_eq_true_eq] at h
  exact h.1

/-- The tenant that a host name is meant for: the one that is registered for the first of more than two
labels. An address names none. -/
def hostTenant? (d : TenantDirectory) (host : List Char) : Option TenantId :=
  if isIpv4Address host = false ∧ 2 < (labels host).length then
    d.lookup (String.ofList (firstLabel host))
  else none

lemma hostTenant?_eq_none {d : TenantDirectory} {host : List Char}
    (h : isIpv4Address host = true ∨ (labels host).length = 2) : hostTenant? d host = none := by
  refine if_neg ?_
  rintro ⟨haddress, hlength⟩
  rcases h with h | h
  · rw [haddress] at h
    exact Bool.false_ne_true h
  · omega

/-- The tenant of the text that a request gives for its host. -/
def tenantAt? (d : TenantDirectory) (host : List Char) : Option TenantId := do
  d.lookup (String.ofList (← subdomain? (← hostName? host)))

lemma ofHost?_eq (d : TenantDirectory) (r : Http.Request) :
    TenantExtractor.ofHost? d r =
      (TenantExtractor.host? r).bind fun host => tenantAt? d host.toList := rfl

lemma subdomain?_map_toLower (host : List Char) :
    subdomain? (host.map Char.toLower) = (subdomain? host).map (List.map Char.toLower) := by
  have hlabels := labels_map_toLower host
  rw [labels, labels] at hlabels
  rw [subdomain?, subdomain?, isIpv4Address_map_toLower, hlabels]
  split
  · rfl
  · rcases Text.splitAt '.' host with _ | ⟨first, _ | ⟨second, _ | ⟨third, rest⟩⟩⟩
    · rfl
    · rfl
    · rfl
    · cases first <;> rfl

lemma hostName?_map_toLower (host : List Char) :
    hostName? (host.map Char.toLower) = (hostName? host).map (List.map Char.toLower) := by
  have hcolon : (fun c => c != ':') ∘ Char.toLower = fun c => c != ':' :=
    funext (Text.toLower_bne (by decide) (by decide))
  have hbracket : ((host.map Char.toLower).head? == some '[') = (host.head? == some '[') := by
    cases host with
    | nil => rfl
    | cons c cs =>
      rw [Bool.eq_iff_iff, beq_iff_eq, beq_iff_eq]
      simp only [List.map_cons, List.head?_cons, Option.some_inj]
      exact Text.toLower_eq_iff (by decide) (by decide)
  rw [hostName?, hostName?, hbracket, List.takeWhile_map, hcolon]
  split <;> rfl

lemma tenantAt?_map_toLower (d : TenantDirectory) (host : List Char) :
    tenantAt? d (host.map Char.toLower) = tenantAt? d host := by
  simp only [tenantAt?, hostName?_map_toLower, Option.bind_eq_bind, Option.bind_map]
  refine Option.bind_congr fun name _ => ?_
  rw [Function.comp_apply, subdomain?_map_toLower, Option.bind_map]
  exact Option.bind_congr fun code _ => d.lookup_map_toLower code

/-- Letter case makes no difference to the tenant of a host. -/
lemma tenantAt?_congr (d : TenantDirectory) {host host' : List Char}
    (h : host.map Char.toLower = host'.map Char.toLower) : tenantAt? d host = tenantAt? d host' := by
  rw [← tenantAt?_map_toLower d host, h, tenantAt?_map_toLower]

end Labels

section Spellings

/-- The text of a host name with labels that are not empty. It stands for itself, neither in brackets nor
with a port number behind it. -/
structure IsHostName (host : List Char) : Prop where
  label_ne_nil : ∀ label ∈ labels host, label ≠ []
  no_colon : ':' ∉ host
  no_bracket : host.head? ≠ some '['

/-- A host name with the root label behind it, if `root`, and with a port number. -/
def hostText (host : List Char) (root : Bool) (port? : Option (List Char)) : List Char :=
  host ++ (if root then ['.'] else []) ++ port?.elim [] (':' :: ·)

/-- Where a request gives the text for its host: in the header, or else in its target behind the name of
a user. -/
inductive Carries (r : Http.Request) (text : List Char) : Prop where
  | header (h : r.headers.text? "host" = some (String.ofList text))
  | target (user : List Char) (h : r.headers.text? "host" = none)
      (huser : user = [] ∨ user.getLast? = some '@') (hat : '@' ∉ text)
      (hauthority : r.uri.authority = String.ofList (user ++ text))

variable {host text : List Char} {r : Http.Request}

lemma IsHostName.firstLabel_ne_nil (h : IsHostName host) : firstLabel host ≠ [] := by
  obtain ⟨first, rest, hlabels⟩ := List.exists_cons_of_ne_nil (Text.splitAt_ne_nil '.' host)
  refine h.label_ne_nil _ ?_
  rw [firstLabel, labels, hlabels]
  exact List.mem_cons_self

lemma IsHostName.ne_nil (h : IsHostName host) : host ≠ [] := by
  rintro rfl
  exact h.firstLabel_ne_nil rfl

lemma firstLabel_rooted (host : List Char) : firstLabel (host ++ ['.']) = firstLabel host := by
  obtain ⟨first, rest, hlabels⟩ := List.exists_cons_of_ne_nil (Text.splitAt_ne_nil '.' host)
  rw [firstLabel, labels_rooted, firstLabel, labels, hlabels]
  rfl

lemma subdomain?_eq (h : firstLabel host ≠ []) : subdomain? host =
    if isIpv4Address host = false ∧ 2 < (labels host).length then some (firstLabel host) else none := by
  have hpieces : Text.splitAt '.' host = labels host := rfl
  rw [firstLabel] at *
  rw [subdomain?, hpieces]
  cases isIpv4Address host with
  | true => rfl
  | false =>
    revert h
    rcases labels host with _ | ⟨first, _ | ⟨second, _ | ⟨third, rest⟩⟩⟩ <;> intro h
    · rfl
    · rfl
    · rfl
    · have hfirst : first.isEmpty = false := by simpa using h
      simp [hfirst]

/-- A host name without its root label names the tenant it is meant for. With the root label it has one
label more, and is no address any more. -/
lemma lookup_subdomain? (d : TenantDirectory) (h : IsHostName host) (root : Bool) :
    ((subdomain? (host ++ if root then ['.'] else [])).bind fun code => d.lookup (String.ofList code)) =
      if root = true ∧ (isIpv4Address host = true ∨ (labels host).length = 2) then
        d.lookup (String.ofList (firstLabel host))
      else hostTenant? d host := by
  cases root with
  | false =>
    rw [if_neg Bool.false_ne_true, List.append_nil, subdomain?_eq h.firstLabel_ne_nil, hostTenant?]
    simp only [Bool.false_eq_true, false_and, if_false]
    split <;> rfl
  | true =>
    have hfirst : firstLabel (host ++ ['.']) ≠ [] := by
      rw [firstLabel_rooted]
      exact h.firstLabel_ne_nil
    rw [if_pos rfl, subdomain?_eq hfirst, firstLabel_rooted, isIpv4Address_rooted, labels_rooted,
      List.length_append, hostTenant?]
    -- An address has four labels, so that it is long enough for a name once the root label is added.
    cases haddress : isIpv4Address host with
    | true =>
      have hlength := length_labels_of_isIpv4Address haddress
      rw [if_pos ⟨rfl, by rw [hlength]; decide⟩, if_pos ⟨rfl, .inl rfl⟩]
      rfl
    | false =>
      simp only [List.length_singleton, true_and, Bool.false_eq_true, false_or]
      rcases lt_trichotomy (labels host).length 2 with hlt | heq | hgt
      · rw [if_neg (by omega), if_neg (by omega), if_neg (by omega)]
        rfl
      · rw [if_pos (by omega), if_pos heq]
        rfl
      · rw [if_pos (by omega), if_neg (by omega), if_pos hgt]
        rfl

lemma hostName?_hostText (h : IsHostName host) (root : Bool) (port? : Option (List Char)) :
    hostName? (hostText host root port?) = some (host ++ if root then ['.'] else []) := by
  have hhead : (hostText host root port?).head? = host.head? := by
    rw [hostText, List.append_assoc, List.head?_append_of_ne_nil _ h.ne_nil]
  have hname : ∀ c ∈ host ++ (if root then ['.'] else []), (c != ':') = true := by
    intro c hc
    refine bne_iff_ne.mpr ?_
    rintro rfl
    rcases List.mem_append.mp hc with hc | hc
    · exact h.no_colon hc
    · cases root
      · simp at hc
      · simp at hc
  have htake : (hostText host root port?).takeWhile (· != ':') =
      host ++ (if root then ['.'] else []) := by
    rw [hostText, List.takeWhile_append_of_pos hname]
    cases port? <;> simp
  rw [hostName?, hhead, htake, if_neg]
  simpa using h.no_bracket

lemma hostName?_takeWhile (text : List Char) (h : text.head? ≠ some '[') :
    hostName? (text.takeWhile (· != ':')) = hostName? text := by
  have hhead : (text.takeWhile (· != ':')).head? ≠ some '[' := by
    cases text with
    | nil => exact Option.some_ne_none _ |>.symm
    | cons c cs =>
      rw [List.takeWhile_cons]
      split
      · exact h
      · exact Option.some_ne_none _ |>.symm
  rw [hostName?, hostName?, if_neg (by simpa using hhead), if_neg (by simpa using h),
    List.takeWhile_idem]

lemma hostOf_append {user : List Char} (huser : user = [] ∨ user.getLast? = some '@')
    (hat : '@' ∉ text) (hbracket : text.head? ≠ some '[') :
    Http.Uri.hostOf (user ++ text) = text.takeWhile (· != ':') := by
  have hpass : ∀ c ∈ text.reverse, (c != '@') = true := by
    intro c hc
    refine bne_iff_ne.mpr ?_
    rintro rfl
    exact hat (List.mem_reverse.mp hc)
  have hstop : user.reverse.takeWhile (· != '@') = [] := by
    rcases huser with rfl | hlast
    · rfl
    · rw [← List.head?_reverse] at hlast
      obtain ⟨rest, hrest⟩ := List.head?_eq_some_iff.mp hlast
      rw [hrest]
      rfl
  have htail : ((user ++ text).reverse.takeWhile (· != '@')).reverse = text := by
    rw [List.reverse_append, List.takeWhile_append_of_pos hpass, hstop, List.append_nil,
      List.reverse_reverse]
  unfold Http.Uri.hostOf
  rw [htail]
  split
  · exact absurd rfl hbracket
  · rfl

lemma ofHost?_of_carries (d : TenantDirectory) (hcarries : Carries r text) (hne : text ≠ [])
    (hbracket : text.head? ≠ some '[') : TenantExtractor.ofHost? d r = tenantAt? d text := by
  rw [ofHost?_eq]
  cases hcarries with
  | header h =>
    rw [TenantExtractor.host?, h]
    show tenantAt? d (String.ofList text).toList = _
    rw [String.toList_ofList]
  | target user h huser hat hauthority =>
    have hsome : r.uri.host? = some (String.ofList (text.takeWhile (· != ':'))) := by
      have hfull : user ++ text ≠ [] := fun hnil => hne (List.append_eq_nil_iff.mp hnil).2
      rw [Http.Uri.host?, hauthority, String.toList_ofList, hostOf_append huser hat hbracket, if_neg]
      simpa [String.isEmpty_iff] using fun _ => hne
    rw [TenantExtractor.host?, h, hsome]
    show tenantAt? d (String.ofList (text.takeWhile (· != ':'))).toList = _
    rw [String.toList_ofList, tenantAt?, hostName?_takeWhile text hbracket]
    rfl

/-- A spelling of a host name begins like a host name. -/
lemma begins_spelling (hhost : IsHostName host) {root : Bool} {port? : Option (List Char)}
    (htext : text.map Char.toLower = (hostText host root port?).map Char.toLower) :
    text ≠ [] ∧ text.head? ≠ some '[' := by
  have hfirst : text.head?.map Char.toLower = host.head?.map Char.toLower := by
    have hhead := congrArg List.head? htext
    rwa [List.head?_map, List.head?_map, hostText, List.append_assoc,
      List.head?_append_of_ne_nil _ hhost.ne_nil] at hhead
  constructor
  · rintro rfl
    cases host with
    | nil => exact hhost.ne_nil rfl
    | cons c cs => exact absurd hfirst (Option.some_ne_none _).symm
  · intro hopen
    rw [hopen] at hfirst
    obtain ⟨c, hc, hlower⟩ := Option.map_eq_some_iff.mp hfirst.symm
    refine hhost.no_bracket ?_
    rw [hc, (Text.toLower_eq_iff (by decide) (by decide)).mp hlower]
    rfl

/-- Every spelling of a host name is read alike, wherever the request gives it: letter case and the port
number make no difference. So it belongs to the tenant that the name is meant for, unless the root label
stands behind an address or behind the second label, and the first label is registered. -/
theorem extract?_spelling (p : Policy) (d : TenantDirectory) (r : Http.Request)
    {host : List Char} (hhost : IsHostName host) (root : Bool) (port? : Option (List Char))
    (text : List Char) (htext : text.map Char.toLower = (hostText host root port?).map Char.toLower)
    (hcarries : Carries r text) :
    (TenantExtractor.subdomain d).extract? p r =
        (if root = true ∧ (isIpv4Address host = true ∨ (labels host).length = 2) then
          d.lookup (String.ofList (firstLabel host))
        else hostTenant? d host) ∧
      ((TenantExtractor.subdomain d).extract? p r = hostTenant? d host ↔
        (root = true → isIpv4Address host = true ∨ (labels host).length = 2 →
          d.lookup (String.ofList (firstLabel host)) = none)) := by
  obtain ⟨hne, hbracket⟩ := begins_spelling hhost htext
  have hvalue : (TenantExtractor.subdomain d).extract? p r =
      if root = true ∧ (isIpv4Address host = true ∨ (labels host).length = 2) then
        d.lookup (String.ofList (firstLabel host))
      else hostTenant? d host := by
    calc (TenantExtractor.subdomain d).extract? p r
      _ = tenantAt? d text := ofHost?_of_carries d hcarries hne hbracket
      _ = tenantAt? d (hostText host root port?) := tenantAt?_congr d htext
      _ = (subdomain? (host ++ if root then ['.'] else [])).bind fun code =>
            d.lookup (String.ofList code) := by
          rw [tenantAt?, hostName?_hostText hhost]
          rfl
      _ = _ := lookup_subdomain? d hhost root
  refine ⟨hvalue, ?_⟩
  rw [hvalue]
  split
  · rename_i hrooted
    rw [hostTenant?_eq_none hrooted.2]
    exact ⟨fun hnone _ _ => hnone, fun hnone => hnone hrooted.1 hrooted.2⟩
  · rename_i hplain
    exact ⟨fun _ hroot hshort => absurd ⟨hroot, hshort⟩ hplain, fun _ => rfl⟩

/-- A request to one host, that its header names, or its target if there is no header. -/
def requestTo (header? : Option String) (authority : String) : Http.Request :=
  ⟨"GET", ⟨none, authority, "/", none⟩, header?.toList.map fun host => ("host", host), none, ""⟩

theorem extract?_spelling_acme :
    let d := TenantDirectory.ofList [("Acme", .one)]
    let host := "acme.tessera.example".toList
    IsHostName host ∧ isIpv4Address host = false ∧ (labels host).length = 3 ∧
      (TenantExtractor.subdomain d).extract? .usual
        (requestTo (some "ACME.Tessera.example.:8443") "") = some .one ∧
      (TenantExtractor.subdomain d).extract? .usual
        (requestTo none "user@acme.tessera.EXAMPLE:80") = some .one := by
  intro d host
  have hhost : IsHostName host := ⟨by decide, by decide, by decide⟩
  have hmeant : hostTenant? d host = some .one := by decide
  have hlong : ¬ (isIpv4Address host = true ∨ (labels host).length = 2) := by decide
  refine ⟨hhost, by decide, by decide, ?_, ?_⟩
  · have hspelling := extract?_spelling .usual d
      (requestTo (some "ACME.Tessera.example.:8443") "") hhost true (some "8443".toList)
      "ACME.Tessera.example.:8443".toList (by decide) (.header (by decide))
    rw [hspelling.2.mpr fun _ hshort => absurd hshort hlong, hmeant]
  · have hspelling := extract?_spelling .usual d
      (requestTo none "user@acme.tessera.EXAMPLE:80") hhost false (some "80".toList)
      "acme.tessera.EXAMPLE:80".toList (by decide)
      (.target "user@".toList (by decide) (by decide) (by decide) (by decide))
    rw [hspelling.2.mpr fun _ hshort => absurd hshort hlong, hmeant]

/-- The root label counts as a third label, and turns an address into a name. -/
theorem extract?_rooted_example :
    let d := TenantDirectory.ofList [("example", .one), ("10", .one)]
    IsHostName "example.com".toList ∧ IsHostName "10.0.0.1".toList ∧
      (TenantExtractor.subdomain d).extract? .usual (requestTo (some "example.com") "") = none ∧
      (TenantExtractor.subdomain d).extract? .usual (requestTo (some "example.com.") "") = some .one ∧
      (TenantExtractor.subdomain d).extract? .usual (requestTo (some "10.0.0.1") "") = none ∧
      (TenantExtractor.subdomain d).extract? .usual (requestTo (some "10.0.0.1.") "") = some .one :=
  ⟨⟨by decide, by decide, by decide⟩, ⟨by decide, by decide, by decide⟩, by decide, by decide,
    by decide, by decide⟩

end Spellings

end RowFence
