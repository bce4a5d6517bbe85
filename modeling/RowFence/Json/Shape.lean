import RowFence.Json.Skip

/-! Readers of values that have a certain shape. -/

namespace RowFence.Json.Reader

variable {α σ : Type}

def mismatch (wanted : String) : Reader α := do
  match ← peek with
  | some 'n' =>
    word ['n', 'u', 'l', 'l']
    refuse (.unexpected "null" wanted)
  | some 't' =>
    word ['t', 'r', 'u', 'e']
    refuse (.unexpected ("boolean " ++ ticked "true") wanted)
  | some 'f' =>
    word ['f', 'a', 'l', 's', 'e']
    refuse (.unexpected ("boolean " ++ ticked "false") wanted)
  | some '"' => refuse (.unexpected ("string " ++ Text.quote (← quoted)) wanted)
  | some '[' => refuse (.unexpected "sequence" wanted)
  | some '{' => refuse (.unexpected "map" wanted)
  | some c =>
    if c != '-' && !c.isDigit then failAhead .wantsValue
    refuse (.unexpected (← number).description wanted)
  | none => failAhead .wantsValue

def null : Reader Unit := located do
  if (← first) = 'n' then word ['n', 'u', 'l', 'l'] else mismatch "unit"

def bool : Reader Bool := located do
  match ← first with
  | 't' =>
    word ['t', 'r', 'u', 'e']
    return true
  | 'f' =>
    word ['f', 'a', 'l', 's', 'e']
    return false
  | _ => mismatch "a boolean"

def integer (kind : String) (holds : Int → Bool) : Reader Int := located do
  let c ← first
  if c != '-' && !c.isDigit then mismatch kind
  match ← number with
  | .int i => if holds i then return i else refuse (.outOfRange i kind)
  | n => refuse (.unexpected n.description kind)

def string : Reader String := located do
  if (← first) = '"' then quoted else mismatch "a string"

def elements (item : Reader α) : (bound : Nat) → (index : Nat) → Reader (List α)
  | 0, _ => return []
  | bound + 1, index => do
    if !(← moreElements (index == 0)) then return []
    let a ← inside (.element index) item
    return a :: (← elements item bound (index + 1))

def list (item : Reader α) : Reader (List α) := located do
  if (← first) = '[' then
    skip
    enclosed (do elements item (← bound) 0) listEnd
  else mismatch "a sequence"

def variantName (choices : List (String × α)) : Reader α := located do
  if (← first) != '"' then mismatch "variant identifier"
  let name ← quoted
  match choices.lookup name with
  | some a => return a
  | none => refuse (.unknownVariant name (choices.map (·.1)))

/-- One of several names: a string, or an object of the name and `null`. -/
def variant (choices : List (String × α)) : Reader α := do
  match ← first with
  | '"' => variantName choices
  | '{' =>
    skip
    let a ← variantName choices
    colon
    null
    match ← blanks with
    | some '}' =>
      skip
      return a
    | some _ => fail .wantsValue
    | none => fail .endOfObject
  | _ => failAhead .wantsValue

structure Member (σ : Type) where
  name : String
  required : Bool
  read : σ → Reader σ

/-- The fields of an object in any order. Other keys are read over. -/
def namedFields (fields : List (Member σ)) :
    (bound : Nat) → (seen : List String) → σ → Reader σ
  | 0, _, s => return s
  | bound + 1, seen, s => do
    if !(← moreKeys (seen.isEmpty)) then
      match fields.find? fun f => f.required && !seen.contains f.name with
      | some f => refuse (.missingField f.name)
      | none => return s
    let name ← quoted
    match fields.find? (·.name == name) with
    | some f =>
      if seen.contains name then refuse (.duplicateField name)
      colon
      let s ← inside (.field name) (f.read s)
      namedFields fields bound (name :: seen) s
    | none =>
      colon
      inside (.field name) skipValue
      namedFields fields bound (name :: seen) s

/-- The values of fields in their order; at the end of a list the others are left out. -/
def orderedFields (title : String) : List (Member σ) → (index : Nat) → σ → Reader σ
  | [], _, s => return s
  | f :: fs, index, s => do
    if ← moreElements (index == 0) then
      let s ← inside (.element index) (f.read s)
      orderedFields title fs (index + 1) s
    else if f.required then refuse (.length index title)
    else orderedFields title fs (index + 1) s

def titleWithLength (title : String) (fields : List (Member σ)) : String :=
  title ++ " with " ++ toString fields.length
    ++ (if fields.length = 1 then " element" else " elements")

def record (title : String) (fields : List (Member σ)) (initial : σ) : Reader σ := located do
  match ← first with
  | '[' =>
    skip
    enclosed (orderedFields (titleWithLength title fields) fields 0 initial) listEnd
  | '{' =>
    skip
    enclosed (do namedFields fields (← bound) [] initial) objectEnd
  | _ => mismatch title

end RowFence.Json.Reader
