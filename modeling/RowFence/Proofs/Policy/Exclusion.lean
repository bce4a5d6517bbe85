import Mathlib.Data.List.Basic
import RowFence.Proofs.Policy.TableName

/-! Which tables a policy excludes, however it was put together and however the table is written:
the built-in ones, and those that its configuration or a later adjustment names. -/

namespace RowFence

open Sql

namespace TableName

lemma isBare_of_isBlank {c : Char} (h : Text.isBlank c = true) : isBare c = true := by
  by_contra hbare
  rw [Bool.not_eq_true] at hbare
  rw [not_isBlank_of_not_isBare hbare] at h
  cases h

lemma isBare_of_folded {s : String} (h : (foldName s).toList.all isBare = true) :
    s.toList.all isBare = true := by
  rw [List.all_eq_true] at h ⊢
  intro c hc
  by_contra hbare
  rw [Bool.not_eq_true] at hbare
  have hkept : c.toLower ∈ (foldName s).toList := by
    rw [foldName, String.toList_ofList]
    exact List.mem_map_of_mem (mem_trimChars hc (not_isBlank_of_not_isBare hbare))
  have hlower := h c.toLower hkept
  rw [isBare_toLower, hbare] at hlower
  cases hlower

lemma foldName_ne_empty {s : String} (h : isBlankText s = false) : foldName s ≠ "" := by
  intro hempty
  have hchars : (Text.trimChars s.toList).map Char.toLower = [] := String.ofList_inj.mp hempty
  obtain ⟨ws, ws', hws, hws', hs⟩ := Text.exists_eq_append_trimChars s.toList
  rw [List.map_eq_nil_iff] at hchars
  rw [hchars, List.nil_append] at hs
  have hblank : isBlankText s = true := by
    rw [isBlankText, hs, List.all_append, Bool.and_eq_true, List.all_eq_true, List.all_eq_true]
    exact ⟨hws, hws'⟩
  rw [hblank] at h
  cases h

end TableName

/-- An identifier where it is written, with what stands around it. -/
structure WrittenPart where
  before : String
  ident : Ident
  after : String

namespace WrittenPart

def text (w : WrittenPart) : String := w.before ++ w.ident.spelling ++ w.after

/-- Only blanks stand around the identifier. It is quoted in some style or not at all, and is the
name but for letter case and for blanks. -/
structure Writes (w : WrittenPart) (name : String) : Prop where
  before : isBlankText w.before = true
  after : isBlankText w.after = true
  quote : w.ident.quote.all TableName.isQuote = true
  folded : w.ident.folded = foldName name

end WrittenPart

/-- A table with the path of its schema. -/
def writtenTable (path : List WrittenPart) (table : WrittenPart) : String :=
  ".".intercalate ((path ++ [table]).map WrittenPart.text)

namespace WrittenPart

variable {w : WrittenPart} {name : String}

lemma ofReference_text (h : w.Writes name) (hbare : name.toList.all TableName.isBare = true) :
    TableName.ofReference w.text = ⟨foldName name⟩ := by
  obtain ⟨before, ident, after⟩ := w
  obtain ⟨hbefore, hafter, hquote, hfolded⟩ := h
  simp only [isBlankText, List.all_eq_true] at hbefore hafter
  -- The quotes fall out first, and what is left has no period in it.
  have hplain : TableName.ofReference (before ++ ident.spelling ++ after) =
      .ofReference (before ++ ident.value ++ after) := by
    simp only [TableName.ofReference, TableName.normal_eq, String.toList_append, List.filter_append,
      TableName.filter_spelling hquote]
  have hvalue : ident.value.toList.all TableName.isBare = true := by
    apply TableName.isBare_of_folded
    have hname := TableName.isBare_folded hbare
    rwa [← hfolded] at hname
  have hall : (before ++ ident.value ++ after).toList.all TableName.isBare = true := by
    simp only [String.toList_append, List.all_append, Bool.and_eq_true, List.all_eq_true]
    rw [List.all_eq_true] at hvalue
    exact ⟨⟨fun c hc => TableName.isBare_of_isBlank (hbefore c hc), hvalue⟩,
      fun c hc => TableName.isBare_of_isBlank (hafter c hc)⟩
  have htrim : foldName (before ++ ident.value ++ after) = ident.folded := by
    rw [foldName, String.toList_append, String.toList_append, Text.trimChars_append_blank _ _ hafter,
      Text.trimChars_blank_append _ _ hbefore, Ident.folded, foldName]
  rw [text, hplain, (TableName.ofReference_eq_folded_iff _).mpr hall, htrim, hfolded]

lemma ofReference_writtenTable (path : List WrittenPart) (h : w.Writes name)
    (hbare : name.toList.all TableName.isBare = true) :
    TableName.ofReference (writtenTable path w) = ⟨foldName name⟩ := by
  rw [writtenTable, List.map_append, List.map_cons, List.map_nil, TableName.ofReference_concat,
    ofReference_text h hbare]

end WrittenPart

namespace Policy

/-- A change to a policy that is built. -/
inductive Adjustment where
  | dialect (d : Dialect)
  | parseFailure (mode : ParseFailure)
  | excludedTables (tables : List String)

def adjust (p : Policy) : Adjustment → Policy
  | .dialect d => p.withDialect d
  | .parseFailure mode => p.withParseFailure mode
  | .excludedTables tables => p.withExcludedTables tables

def adjusted (p : Policy) (changes : List Adjustment) : Policy := changes.foldl adjust p

/-- The tables that an adjustment adds. -/
def Adjustment.added : Adjustment → List String
  | .excludedTables tables => tables
  | _ => []

lemma excludedTables_adjust (p : Policy) (change : Adjustment) :
    (p.adjust change).excludedTables =
      p.excludedTables ++ change.added.map TableName.ofReference := by
  cases change <;> simp [adjust, Adjustment.added, withDialect, withParseFailure, withExcludedTables]

lemma excludedTables_adjusted (p : Policy) (changes : List Adjustment) :
    (p.adjusted changes).excludedTables =
      p.excludedTables ++ (changes.flatMap Adjustment.added).map TableName.ofReference := by
  induction changes generalizing p with
  | nil => simp [adjusted]
  | cons change changes ih =>
    have hrest := ih (p.adjust change)
    rw [excludedTables_adjust] at hrest
    simpa [adjusted] using hrest

lemma excludedTables_ofConfig {c : IsolationConfig} {p : Policy} (h : ofConfig c = .ok p) :
    p.excludedTables = excludedNames c.excludedTables := by
  simp only [ofConfig, bind, Except.bind, pure, Except.pure, throw, throwThe, MonadExceptOf.throw] at h
  split at h
  · split at h
    · cases h
    · split at h
      · cases h
      · split at h
        · cases h
        · cases h
          rfl
  · cases h

lemma mem_excludedNames_iff {tables : List String} {t : TableName} (h : t.text ≠ "") :
    t ∈ excludedNames tables ↔ t ∈ tables.map TableName.ofReference := by
  rw [excludedNames, List.mem_filter]
  apply and_iff_left
  simpa using h

lemma excludesName_adjusted_iff {c : IsolationConfig} {p : Policy} (accepted : ofConfig c = .ok p)
    (changes : List Adjustment) {t : TableName} (h : t.text ≠ "") :
    (p.adjusted changes).excludesName t = true ↔ t.text ∈ TableName.builtin ∨
      ∃ table ∈ c.excludedTables ++ changes.flatMap Adjustment.added, .ofReference table = t := by
  rw [excludesName, Bool.or_eq_true, TableName.isBuiltin, List.contains_iff_mem,
    List.contains_iff_mem, excludedTables_adjusted, excludedTables_ofConfig accepted,
    List.mem_append, mem_excludedNames_iff h, ← List.mem_append, ← List.map_append, List.mem_map]

/-- A table is excluded just in case it is built in, or is named by the configuration or by an
adjustment. Its schema, quotes, blanks and letter case make no difference, and nothing takes a
built-in table out again. -/
theorem excludesTable_adjusted_iff {c : IsolationConfig} {p : Policy}
    (accepted : ofConfig c = .ok p) (changes : List Adjustment) :
    (∀ name : String, name.toList.all TableName.isBare = true → isBlankText name = false →
      (∀ path table, WrittenPart.Writes table name →
        (p.adjusted changes).excludesTable (writtenTable path table) =
          (p.adjusted changes).excludesTable name) ∧
      ((p.adjusted changes).excludesTable name = true ↔ foldName name ∈ TableName.builtin ∨
        ∃ table ∈ c.excludedTables ++ changes.flatMap Adjustment.added,
          .ofReference table = TableName.ofReference name)) ∧
    ∀ name ∈ TableName.builtin, ∀ path table, WrittenPart.Writes table name →
      (p.adjusted changes).excludesTable (writtenTable path table) = true := by
  refine ⟨fun name hbare hnonblank => ?_, fun name hname path table hwrites => ?_⟩
  · have hname := (TableName.ofReference_eq_folded_iff name).mpr hbare
    constructor
    · intro path table hwrites
      rw [excludesTable, WrittenPart.ofReference_writtenTable path hwrites hbare, excludesTable, hname]
    · rw [excludesTable, hname]
      exact excludesName_adjusted_iff accepted changes (TableName.foldName_ne_empty hnonblank)
  · have hplain : ∀ b ∈ TableName.builtin, b.toList.all TableName.isBare = true ∧ foldName b = b := by
      decide +kernel
    obtain ⟨hbare, hfolded⟩ := hplain name hname
    rw [excludesTable, WrittenPart.ofReference_writtenTable path hwrites hbare, hfolded, excludesName,
      TableName.isBuiltin, List.contains_iff_mem.mpr hname, Bool.true_or]

/-- The table `audit log` is configured with a schema and quotes, and then another one is added. -/
theorem excludesTable_adjusted_auditLog :
    let c : IsolationConfig := { excludedTables := ["ops.`Audit Log`", " "] }
    ∃ p, ofConfig c = .ok p ∧
      let adjusted := p.adjusted [.dialect .sqlite, .excludedTables ["[tmp]"]]
      adjusted.excludesTable " \"a.b\" . [ AUDIT log ] " = true ∧
        adjusted.excludesTable "orders" = false ∧ adjusted.excludesTable "`main`.S2_Tenant" = true := by
  intro c
  cases accepted : ofConfig c with
  | error e =>
    have hok : (ofConfig c).isOk = true := by decide +kernel
    rw [accepted] at hok
    cases hok
  | ok p =>
    have hexcluded := excludesTable_adjusted_iff accepted [.dialect .sqlite, .excludedTables ["[tmp]"]]
    have haudit := hexcluded.1 "audit log" (by decide +kernel) (by decide +kernel)
    have horders := hexcluded.1 "orders" (by decide +kernel) (by decide +kernel)
    refine ⟨p, rfl, ?_, ?_, ?_⟩
    · refine (haudit.1 [⟨" ", ⟨"a.b", some '"'⟩, " "⟩] ⟨" ", ⟨" AUDIT log ", some '['⟩, " "⟩ ?_).trans
        (haudit.2.mpr ?_)
      · exact ⟨by decide, by decide, by decide, by decide +kernel⟩
      · exact .inr ⟨"ops.`Audit Log`", by decide +kernel, by decide +kernel⟩
    · rw [Bool.eq_false_iff, ne_eq, horders.2]
      decide +kernel
    · exact hexcluded.2 "s2_tenant" (by decide) [⟨"", ⟨"main", some '`'⟩, ""⟩]
        ⟨"", ⟨"S2_Tenant", none⟩, ""⟩ ⟨by decide, by decide, by decide, by decide +kernel⟩

end Policy

end RowFence
