import RowFence.Proofs.Json.Objects

/-! Configurations come back from their JSON text, in whatever order its members stand and whatever
members of other names stand between them. The fields that are left out have their usual values. -/

namespace RowFence.IsolationConfig

open Json Json.Reader

def entries (c : IsolationConfig) : List Entry :=
  match c.toJson with
  | .object members => members.map fun m => .of m.1 m.2
  | _ => []

def fieldNames : List String := fields.map (·.name)

def pick {α : Type} (names : List String) (name : String) (chosen other : α) : α :=
  if name ∈ names then chosen else other

/-- The fields of these names have the values of `c`, all others those of `s`. -/
def taking (c : IsolationConfig) (names : List String) (s : IsolationConfig) : IsolationConfig where
  enabled := pick names "enabled" c.enabled s.enabled
  required := pick names "required" c.required s.required
  defaultTenantId := pick names "default_tenant_id" c.defaultTenantId s.defaultTenantId
  tenantIdHeader := pick names "tenant_id_header" c.tenantIdHeader s.tenantIdHeader
  headerEnabled := pick names "header_enabled" c.headerEnabled s.headerEnabled
  subdomainEnabled := pick names "subdomain_enabled" c.subdomainEnabled s.subdomainEnabled
  tenantColumn := pick names "tenant_column" c.tenantColumn s.tenantColumn
  excludedTables := pick names "excluded_tables" c.excludedTables s.excludedTables
  excludedPaths := pick names "excluded_paths" c.excludedPaths s.excludedPaths
  dialect := pick names "dialect" c.dialect s.dialect
  onParseFailure := pick names "on_parse_failure" c.onParseFailure s.onParseFailure

/-- The configuration with the usual values but in the fields of these names. -/
def keeping (c : IsolationConfig) (names : List String) : IsolationConfig := c.taking names {}

variable {c s : IsolationConfig} {names names' : List String}

lemma taking_congr (h : ∀ name ∈ fieldNames, name ∈ names ↔ name ∈ names') :
    c.taking names s = c.taking names' s := by
  have hpick {α : Type} {name : String} (hname : name ∈ fieldNames) (a b : α) :
      pick names name a b = pick names' name a b := if_congr (h name hname) rfl rfl
  rw [taking, taking, mk.injEq]
  refine ⟨?_, ?_, ?_, ?_, ?_, ?_, ?_, ?_, ?_, ?_, ?_⟩ <;> exact hpick (by decide) _ _

lemma taking_nil (c s : IsolationConfig) : c.taking [] s = s := rfl

lemma taking_fieldNames (c s : IsolationConfig) : c.taking fieldNames s = c := rfl

lemma taking_taking (c s : IsolationConfig) (name : String) (names : List String) :
    c.taking names (c.taking [name] s) = c.taking (name :: names) s := by
  have hpick {α : Type} (n : String) (a b : α) :
      pick names n a (pick [name] n a b) = pick (name :: names) n a b := by
    unfold pick
    grind
  simp only [taking, hpick]

lemma foldl_taking (c s : IsolationConfig) (es : List Entry) :
    es.foldl (fun s e => c.taking [e.name] s) s = c.taking (es.map (·.name)) s := by
  induction es generalizing s with
  | nil => rfl
  | cons e es ih => rw [List.foldl_cons, ih, taking_taking, List.map_cons]

lemma taking_of_not_mem {name : String} (h : name ∉ fieldNames) : c.taking [name] s = s := by
  refine Eq.trans (taking_congr fun n hn => ?_) (taking_nil c s)
  rw [List.mem_singleton, List.mem_nil_iff, iff_false]
  rintro rfl
  exact h hn

lemma fits_of_reads {α : Type} {r : Reader α} {a : α} {set : IsolationConfig → α → IsolationConfig}
    {name : String} {text : List Char} (i : Nat)
    (hfield : fields[i]? = some ⟨name, false, fun s => r >>= fun a => pure (set s a)⟩)
    (hread : ∀ rest, EndsNumber rest → Reads r (text ++ rest) a rest)
    (hset : ∀ s, set s a = c.taking [name] s) : Fits fields ⟨name, text⟩ (c.taking [name]) := by
  have hnodup : (fields.map (·.name)).Nodup := by decide
  refine .field (find?_name hnodup (List.mem_of_getElem? hfield)) fun s rest hrest => ?_
  rw [← hset s]
  exact (hread rest hrest).bind (.pure _ rest)

lemma lookup_dialect (d : Sql.Dialect) : Sql.Dialect.choices.lookup d.name = some d := by
  cases d <;> decide

lemma lookup_parseFailure (m : ParseFailure) : ParseFailure.choices.lookup m.name = some m := by
  cases m <;> decide

lemma fits_entries (h : isInt64 c.defaultTenantId = true) :
    ∀ e ∈ c.entries, Fits fields e (c.taking [e.name]) := by
  simp only [entries, toJson, List.map_cons, List.map_nil, List.forall_mem_cons]
  refine ⟨?_, ?_, ?_, ?_, ?_, ?_, ?_, ?_, ?_, ?_, ?_, nofun⟩
  · exact fits_of_reads 0 rfl (fun rest _ => reads_bool _ rest) fun s => rfl
  · exact fits_of_reads 1 rfl (fun rest _ => reads_bool _ rest) fun s => rfl
  · exact fits_of_reads 2 rfl (fun rest hrest => reads_integer _ h h hrest) fun s => rfl
  · exact fits_of_reads 3 rfl (fun rest _ => reads_string _ rest) fun s => rfl
  · exact fits_of_reads 4 rfl (fun rest _ => reads_bool _ rest) fun s => rfl
  · exact fits_of_reads 5 rfl (fun rest _ => reads_bool _ rest) fun s => rfl
  · exact fits_of_reads 6 rfl (fun rest _ => reads_string _ rest) fun s => rfl
  · exact fits_of_reads 7 rfl (fun rest _ => reads_strings _ rest) fun s => rfl
  · exact fits_of_reads 8 rfl (fun rest _ => reads_strings _ rest) fun s => rfl
  · exact fits_of_reads 9 rfl (fun rest _ => reads_variant (lookup_dialect _) rest) fun s => rfl
  · exact fits_of_reads 10 rfl (fun rest _ => reads_variant (lookup_parseFailure _) rest) fun s => rfl

lemma find?_eq_none {name : String} (h : name ∉ fieldNames) :
    fields.find? (·.name == name) = none := by
  rw [List.find?_eq_none]
  rintro f hf heq
  exact h (List.mem_map.mpr ⟨f, hf, beq_iff_eq.mp heq⟩)

section Documents

variable {kept extra doc : List Entry}

lemma distinctFields_document (hkept : kept.Sublist c.entries)
    (hextra : ∀ e ∈ extra, e.name ∉ fieldNames) (hdoc : doc.Perm (kept ++ extra)) :
    DistinctFields fields doc := by
  have hnodup : (c.entries.map (·.name)).Nodup := by
    show fieldNames.Nodup
    decide
  exact (DistinctFields.append (hnodup.sublist (hkept.map _))
    fun e he => find?_eq_none (hextra e he)).perm hdoc

lemma fits_document (h : isInt64 c.defaultTenantId = true) (hkept : kept.Sublist c.entries)
    (hextra : ∀ e ∈ extra, e.name ∉ fieldNames ∧ IsScalarText e.text)
    (hdoc : doc.Perm (kept ++ extra)) : ∀ e ∈ doc, Fits fields e (c.taking [e.name]) := by
  intro e he
  obtain he | he := List.mem_append.mp (hdoc.mem_iff.mp he)
  · exact fits_entries h e (hkept.subset he)
  · obtain ⟨hname, htext⟩ := hextra e he
    exact .other (find?_eq_none hname) htext (funext fun s => taking_of_not_mem hname)

lemma taking_document (hextra : ∀ e ∈ extra, e.name ∉ fieldNames) (hdoc : doc.Perm (kept ++ extra)) :
    c.taking (doc.map (·.name)) s = c.taking (kept.map (·.name)) s := by
  refine taking_congr fun name hname => ?_
  rw [(hdoc.map (·.name)).mem_iff, List.map_append, List.mem_append, or_iff_left]
  intro hmem
  obtain ⟨e, he, rfl⟩ := List.mem_map.mp hmem
  exact hextra e he hname

end Documents

/-- A configuration is read back from its text, and so it is where the members stand in another order
and members of other names stand between them. Where members are left out, just their fields have the
usual values. -/
theorem ofJson_document (c : IsolationConfig) (h : isInt64 c.defaultTenantId = true) :
    c.toJson.render = String.ofList (objectText c.entries) ∧ c.keeping (c.entries.map (·.name)) = c ∧
    ∀ kept extra doc : List Entry, kept.Sublist c.entries →
      (∀ e ∈ extra, e.name ∉ fieldNames ∧ IsScalarText e.text) → doc.Perm (kept ++ extra) →
      ofJson (String.ofList (objectText doc)) = .ok (c.keeping (kept.map (·.name))) := by
  refine ⟨?_, taking_fieldNames c {}, fun kept extra doc hkept hextra hdoc => ?_⟩
  · rw [Value.render, toJson, written_object]
    rfl
  · have hoptional : ∀ f ∈ fields, f.required = false := by simp [fields]
    have hnames (e : Entry) (he : e ∈ extra) : e.name ∉ fieldNames := (hextra e he).1
    have hread := reads_record "struct IsolationConfig" hoptional (fits_document h hkept hextra hdoc)
      (distinctFields_document hkept hnames hdoc) {} []
    rw [foldl_taking, taking_document hnames hdoc, List.append_nil] at hread
    exact hread.run

theorem ofJson_document_partial :
    let c : IsolationConfig := {
      enabled := true
      defaultTenantId := -9223372036854775808
      tenantIdHeader := "X-\"\\\x01\té"
      excludedTables := ["a\n", ""]
      dialect := .sqlite }
    isInt64 c.defaultTenantId = true ∧
      ofJson ("\x7b\"note\":-1.5e+3,\"dialect\":\"sqlite\",\"excluded_tables\":[\"a\\n\",\"\"]," ++
        "\"\":null,\"tenant_id_header\":\"X-\\\"\\\\\\u0001\\té\",\"note\":\"\\u00E9\"," ++
        "\"default_tenant_id\":-9223372036854775808\x7d") =
      .ok { c with enabled := false } := by
  intro c
  have hbounds : isInt64 c.defaultTenantId = true := by decide
  let kept : List Entry := [.of "default_tenant_id" (.int c.defaultTenantId),
    .of "tenant_id_header" (.string c.tenantIdHeader), .of "excluded_tables" (.strings c.excludedTables),
    .of "dialect" (.string c.dialect.name)]
  let note : Entry := ⟨"note", ['-', '1', '.', '5', 'e', '+', '3']⟩
  let note' : Entry := ⟨"note", "\"\\u00E9\"".toList⟩
  let extra : List Entry := [note, ⟨"", "null".toList⟩, note']
  have hnumber : IsNumberText note.text :=
    @IsNumberText.mk true ['1'] ['.', '5'] ['e', '+', '3'] (.inr ⟨⟨by decide, by decide⟩, by decide⟩)
      (.point ⟨by decide, by decide⟩) (.marked rfl (.inr (.inl rfl)) ⟨by decide, by decide⟩)
  have hstring : IsStringText note'.text :=
    ⟨[['\\', 'u', '0', '0', 'E', '9']], by simpa using .long rfl (by decide), by decide +kernel⟩
  have hextra : ∀ e ∈ extra, e.name ∉ fieldNames ∧ IsScalarText e.text := by
    simp only [extra, List.forall_mem_cons]
    exact ⟨⟨by decide, .number hnumber⟩, ⟨by decide, .null⟩, ⟨by decide, .string hstring⟩, nofun⟩
  let doc : List Entry := [note, kept[3], kept[2], ⟨"", "null".toList⟩, kept[1], note', kept[0]]
  have hread := (ofJson_document c hbounds).2.2 kept extra doc (by decide +kernel) hextra
    (by decide +kernel)
  refine ⟨hbounds, Eq.trans (congrArg ofJson ?_) (hread.trans (congrArg Except.ok ?_))⟩
  · decide +kernel
  · decide +kernel

end RowFence.IsolationConfig
