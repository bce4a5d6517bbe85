import RowFence.Json.Fault

/-! Readers of JSON text: they move a cursor, and what they read has the shape they are made for.
A fault may leave its place open, which the value around it fills in. -/

namespace RowFence.Json

structure Cursor where
  rest : List Char
  place : Place
  deriving DecidableEq, Repr

def placeAfter : Nat → Place → List Char → Place
  | 0, p, _ => p
  | _, p, [] => p
  | n, p, c :: cs =>
    if c.utf8Size ≤ n then placeAfter (n - c.utf8Size) (p.after c) cs
    else { p with column := p.column + n }

def isSpace (c : Char) : Bool := c = ' ' || c = '\n' || c = '\t' || c = '\r'

namespace Cursor

def ofText (s : String) : Cursor := ⟨s.toList, .start⟩

def placeAhead (c : Cursor) : Place := placeAfter 1 c.place c.rest

def advance (c : Cursor) : Cursor :=
  match c.rest with
  | [] => c
  | x :: rest => ⟨rest, c.place.after x⟩

def skipWhile (p : Char → Bool) (c : Cursor) : Cursor :=
  ⟨c.rest.dropWhile p, (c.rest.takeWhile p).foldl .after c.place⟩

end Cursor

/-- The cursor is kept when a reader fails. -/
abbrev Reader := ExceptT Fault (StateM Cursor)

namespace Reader

variable {α : Type}

def peek : Reader (Option Char) := return (← get).rest.head?

def skip : Reader Unit := modify Cursor.advance

def failAt (reason : Reason) (place : Place) : Reader α := throw ⟨reason, some place, []⟩

/-- Fails behind what has been read. -/
def fail (reason : Reason) : Reader α := do failAt reason (← get).place

/-- Fails behind the byte that comes next. -/
def failAhead (reason : Reason) : Reader α := do failAt reason (← get).placeAhead

def refuse (reason : Reason) : Reader α := throw ⟨reason, none, []⟩

/-- Gives a fault without a place the place that the reader came to. -/
def located (r : Reader α) : Reader α :=
  tryCatch r fun e => do
    match e.place? with
    | some _ => throw e
    | none => throw { e with place? := some (← get).place }

def inside (step : Step) (r : Reader α) : Reader α :=
  tryCatch r fun e => throw { e with path := step :: e.path }

def takeWhile (p : Char → Bool) : Reader (List Char) := do
  let c ← get
  set (c.skipWhile p)
  return c.rest.takeWhile p

def blanks : Reader (Option Char) := do
  modify (Cursor.skipWhile isSpace)
  peek

def first : Reader Char := do
  match ← blanks with
  | some c => return c
  | none => failAhead .endOfValue

def bound : Reader Nat := return (← get).rest.length + 1

def word : List Char → Reader Unit
  | [] => return ()
  | c :: cs => do
    match ← peek with
    | none => fail .endOfValue
    | some d =>
      if c = d then
        skip
        word cs
      else failAhead .wantsWord

def colon : Reader Unit := do
  match ← blanks with
  | some ':' => skip
  | some _ => failAhead .wantsColon
  | none => failAhead .endOfObject

/-- Reads what stands between brackets, then the end of it. That is tried after a failure as well,
which moves the cursor on. -/
def enclosed (content : Reader α) (ending : Reader Unit) : Reader α := do
  match ← tryCatch (Except.ok <$> content) (fun e => return .error e) with
  | .ok a =>
    ending
    return a
  | .error e =>
    tryCatch ending fun _ => return ()
    throw e

def listEnd : Reader Unit := do
  match ← blanks with
  | some ']' => skip
  | some ',' =>
    skip
    if (← blanks) == some ']' then failAhead .trailingComma else failAhead .trailingText
  | some _ => failAhead .trailingText
  | none => failAhead .endOfList

def objectEnd : Reader Unit := do
  match ← blanks with
  | some '}' => skip
  | some ',' => failAhead .trailingComma
  | some _ => failAhead .trailingText
  | none => failAhead .endOfObject

def moreElements (isFirst : Bool) : Reader Bool := do
  match ← blanks with
  | none => failAhead .endOfList
  | some ']' => return false
  | some c =>
    if isFirst then return true
    if c != ',' then failAhead .wantsListEnd
    skip
    match ← blanks with
    | some ']' => failAhead .trailingComma
    | some _ => return true
    | none => failAhead .endOfValue

def moreKeys (isFirst : Bool) : Reader Bool := do
  match ← blanks with
  | none => failAhead .endOfObject
  | some '}' => return false
  | some c =>
    if isFirst then
      if c = '"' then return true else failAhead .key
    if c != ',' then failAhead .wantsObjectEnd
    skip
    match ← blanks with
    | some '"' => return true
    | some '}' => failAhead .trailingComma
    | some _ => failAhead .key
    | none => failAhead .endOfValue

def runOnStart (r : Reader α) (text : String) : Except Fault α := (r (Cursor.ofText text)).1

def toEnd (r : Reader α) : Reader α := do
  let a ← r
  if (← blanks).isSome then failAhead .trailingText
  return a

def run (r : Reader α) (text : String) : Except Fault α := r.toEnd.runOnStart text

end Reader

end RowFence.Json
