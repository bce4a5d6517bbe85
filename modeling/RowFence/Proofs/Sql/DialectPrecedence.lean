import RowFence.Proofs.Sql.Precedence
import RowFence.Sql.Parser.Expr
import RowFence.Text.Split

/-! The precedence that the parser gives to operators in each dialect, and that of a MySQL server, which
takes `||` for `OR`. -/

namespace RowFence.Sql

/-- The words that the spelling of a phrase starts with. -/
def phraseWords : List Piece → List String
  | .text s :: _ => (Text.pieces ' ' s).filter (!·.isEmpty)
  | _ => []

/-- The entry of a table for the longest start of a phrase, if longer starts come first. -/
def lookUp {α : Type} (table : List (List String × α)) (words : List String) : Option α :=
  (table.find? fun entry => entry.1.isPrefixOf words).map Prod.snd

lemma exists_mem_of_lookUp {α : Type} {table : List (List String × α)} {words : List String} {a : α}
    (h : lookUp table words = some a) : ∃ keys, (keys, a) ∈ table := by
  obtain ⟨entry, hentry, rfl⟩ := Option.map_eq_some_iff.mp h
  exact ⟨entry.1, List.mem_of_find?_eq_some hentry⟩

namespace Level

/-- Signs that can stand between two expressions. -/
def signSymbols : List Symbol :=
  Parser.plainOperators ++ [.duckIntDiv, .shiftLeft, .shiftRight, .overlap, .caretAt, .sharp]

def ofSign (d : Dialect) : BinaryOp → Level
  | .and => and
  | .or => or
  | .xor => xor
  | .eq => eq
  | .concat => (ofSymbol? d .stringConcat).getD extension
  | .other s =>
    if s = "DIV" then multiply
    else if s.startsWith "OPERATOR(" then between
    else ((signSymbols.find? (·.spelling == s)).bind (ofSymbol? d)).getD extension

/-- What a phrase binds as. A comparison sign starts one if `ANY` or the like follows it. -/
def phraseLevels (d : Dialect) : List (List String × Level) :=
  [(["IS"], is), (["AT", "TIME", "ZONE"], atTimeZone), (["IN"], between), (["BETWEEN"], between),
    (["NOT", "IN"], between), (["NOT", "BETWEEN"], between), (["LIKE"], like), (["ILIKE"], like),
    (["RLIKE"], like), (["REGEXP"], like), (["SIMILAR"], like), (["NOT", "LIKE"], like),
    (["NOT", "ILIKE"], like), (["NOT", "RLIKE"], like), (["NOT", "REGEXP"], like),
    (["NOT", "SIMILAR"], like), (["NOT"], not), (["-"], multiply), (["+"], multiply),
    (["PRIOR"], add), (["!!"], add), (["|/"], add), (["||/"], add), (["@"], add), (["~"], add),
    (["!"], if d = .postgres then extension else doubleColon), (["["], bracket), (["="], eq),
    (["<>"], eq), (["<"], eq), (["<="], eq), ([">"], eq), ([">="], eq)]

/-- Casts and the like stand at an operand. -/
def ofPhrase (d : Dialect) (pieces : List Piece) : Level :=
  (lookUp (phraseLevels d) (phraseWords pieces)).getD doubleColon

end Level

namespace Operator

def level (d : Dialect) : Operator → Level
  | .sign op => .ofSign d op
  | .phrase pieces => .ofPhrase d pieces

def greedyPhrases : List (List String) :=
  [["IS", "DISTINCT", "FROM"], ["IS", "NOT", "DISTINCT", "FROM"]]

/-- Whether the parser takes any expression for the right operand, whatever operators are in it. -/
def isGreedy (d : Dialect) : Operator → Bool
  | .sign op => d = .mysql && op = .other "DIV"
  | .phrase pieces => greedyPhrases.contains (phraseWords pieces)

def serverSigns : List (List String × Nat) :=
  [(["&&"], 3), (["<>"], 6), (["<"], 6), (["<="], 6), ([">"], 6), ([">="], 6), (["<=>"], 6),
    (["|"], 7), (["&"], 8), (["<<"], 9), ([">>"], 9), (["+"], 10), (["-"], 10), (["*"], 11),
    (["/"], 11), (["%"], 11), (["DIV"], 11), (["^"], 12)]

def serverPhrases : List (List String × Nat) :=
  [(["NOT", "BETWEEN"], 5), (["BETWEEN"], 5), (["IS"], 6), (["IN"], 6), (["LIKE"], 6),
    (["RLIKE"], 6), (["REGEXP"], 6), (["NOT", "IN"], 6), (["NOT", "LIKE"], 6),
    (["NOT", "RLIKE"], 6), (["NOT", "REGEXP"], 6), (["NOT"], 4), (["="], 6), (["<>"], 6),
    (["<"], 6), (["<="], 6), ([">"], 6), ([">="], 6), (["-"], 13), (["+"], 13), (["~"], 13)]

/-- How tightly a MySQL server binds an operator. -/
def serverStrength : Operator → Nat
  | .sign .or => 1
  | .sign .concat => 1
  | .sign .xor => 2
  | .sign .and => 3
  | .sign .eq => 6
  | .sign (.other s) => (lookUp serverSigns [s]).getD 14
  | .phrase pieces => (lookUp serverPhrases (phraseWords pieces)).getD 14

end Operator

namespace Precedence

def ofDialect (d : Dialect) : Precedence where
  strength o := (o.level d).strength d
  reach o := if o.isGreedy d then 0 else (o.level d).strength d

def server : Precedence := ⟨Operator.serverStrength, Operator.serverStrength⟩

section And

lemma strength_and_le {d : Dialect} {l : Level} (h : l ≠ .or ∧ l ≠ .collate) :
    Level.strength d .and ≤ Level.strength d l := by
  obtain ⟨hor, hcollate⟩ := h
  cases d <;> cases l <;> first | contradiction | decide

lemma ofSymbol?_tight {d : Dialect} {s : Symbol} {l : Level} (h : Level.ofSymbol? d s = some l) :
    l ≠ .or ∧ l ≠ .collate := by
  unfold Level.ofSymbol? at h
  split at h <;> cases h <;> first | decide | (split <;> decide)

lemma ofSign_tight {d : Dialect} {op : BinaryOp} (h : op ≠ .or) :
    Level.ofSign d op ≠ .or ∧ Level.ofSign d op ≠ .collate := by
  have hgetD : ∀ l? : Option Level, (∀ l, l? = some l → l ≠ .or ∧ l ≠ .collate) →
      l?.getD .extension ≠ .or ∧ l?.getD .extension ≠ .collate := by
    rintro (_ | l) hl
    · decide
    · exact hl l rfl
  cases op with
  | or => exact absurd rfl h
  | and | xor | eq => simp [Level.ofSign]
  | concat =>
    rw [Level.ofSign]
    exact hgetD _ fun l hl => ofSymbol?_tight hl
  | other s =>
    rw [Level.ofSign]
    split
    · decide
    · split
      · decide
      · refine hgetD _ fun l hl => ?_
        obtain ⟨symbol, -, hsymbol⟩ := Option.bind_eq_some_iff.mp hl
        exact ofSymbol?_tight hsymbol

lemma ofPhrase_tight (d : Dialect) (pieces : List Piece) :
    Level.ofPhrase d pieces ≠ .or ∧ Level.ofPhrase d pieces ≠ .collate := by
  rw [Level.ofPhrase]
  cases hfound : lookUp (Level.phraseLevels d) (phraseWords pieces) with
  | none => decide
  | some l =>
    obtain ⟨keys, hmem⟩ := exists_mem_of_lookUp hfound
    have htable : ∀ entry ∈ Level.phraseLevels d, entry.2 ≠ .or ∧ entry.2 ≠ .collate := by
      cases d <;> decide
    exact htable _ hmem

/-- The parser splits conditions at each `AND` that no greedy operator reaches. -/
lemma strength_and_le_reach_iff {d : Dialect} {o : Operator} (h : o ≠ .sign .or) :
    (ofDialect d).strength (.sign .and) ≤ (ofDialect d).reach o ↔ o.isGreedy d = false := by
  have htight : o.level d ≠ .or ∧ o.level d ≠ .collate := by
    cases o with
    | sign op => exact ofSign_tight fun hop => h (congrArg _ hop)
    | phrase pieces => exact ofPhrase_tight d pieces
  have hand : (ofDialect d).strength (.sign .and) = Level.strength d .and := rfl
  have hreach : (ofDialect d).reach o = if o.isGreedy d then 0 else (o.level d).strength d := rfl
  rw [hand, hreach]
  cases o.isGreedy d with
  | true =>
    have hpositive : ¬ Level.strength d .and ≤ 0 := by cases d <;> decide
    exact iff_of_false hpositive Bool.true_eq_false.mp
  | false => exact iff_of_true (strength_and_le htight) rfl

lemma server_strength_and_le {o : Operator} (hor : o ≠ .sign .or) (hxor : o ≠ .sign .xor)
    (hconcat : o ≠ .sign .concat) : server.strength (.sign .and) ≤ server.reach o := by
  have hgetD : ∀ (table : List (List String × Nat)) (words : List String),
      (∀ entry ∈ table, 3 ≤ entry.2) → 3 ≤ (lookUp table words).getD 14 := by
    intro table words htable
    cases hfound : lookUp table words with
    | none => decide
    | some n =>
      obtain ⟨keys, hmem⟩ := exists_mem_of_lookUp hfound
      exact htable _ hmem
  cases o with
  | phrase pieces => exact hgetD _ _ (by decide)
  | sign op =>
    cases op with
    | or => exact absurd rfl hor
    | xor => exact absurd rfl hxor
    | concat => exact absurd rfl hconcat
    | and | eq => decide
    | other s => exact hgetD _ _ (by decide)

end And

end Precedence

end RowFence.Sql
