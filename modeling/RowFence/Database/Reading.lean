import RowFence.Database.Token

/-! Readers of statements: steps over the tokens of a text, which fail where the tokens are none of
a statement. -/

namespace RowFence.Database

abbrev Reading := ReaderT (List Char) (StateT (List PlacedToken) Option)

namespace Reading

def upper (s : String) : String := s.map Char.toUpper

def reserved : List String :=
  ["ADD", "ALL", "ALTER", "AND", "AS", "AUTOINCREMENT", "BETWEEN", "CASE", "CHECK", "COLLATE",
    "COMMIT", "CONSTRAINT", "CREATE", "DEFAULT", "DEFERRABLE", "DELETE", "DISTINCT", "DROP", "ELSE",
    "ESCAPE", "EXCEPT", "EXISTS", "FOREIGN", "FROM", "GROUP", "HAVING", "IN", "INDEX", "INSERT",
    "INTERSECT", "INTO", "IS", "ISNULL", "JOIN", "LIMIT", "NOT", "NOTHING", "NOTNULL", "NULL", "ON",
    "OR", "ORDER", "PRIMARY", "REFERENCES", "RETURNING", "SELECT", "SET", "TABLE", "THEN", "TO",
    "TRANSACTION", "UNION", "UNIQUE", "UPDATE", "USING", "VALUES", "WHEN", "WHERE"]

/-- Words of joins. They are names where no join can stand. -/
def joinWords : List String := ["CROSS", "FULL", "INNER", "LEFT", "NATURAL", "OUTER", "RIGHT"]

def fail {α : Type} : Reading α := fun _ _ => none

def peekAt (ahead : Nat) : Reading Token := return (((← get)[ahead]?).map (·.token)).getD .ending

def peek : Reading Token := peekAt 0

def skip : Reading Unit := modify List.tail

def keyOf : Token → String
  | .word text => upper text
  | _ => ""

def peekKey : Reading String := return keyOf (← peek)

def peekKeyAt (ahead : Nat) : Reading String := return keyOf (← peekAt ahead)

def word (key : String) : Reading Bool := do
  if (← peekKey) == key then
    skip
    return true
  else return false

def words (keys : List String) : Reading Bool := do
  let before ← get
  for key in keys do
    if !(← word key) then
      set before
      return false
  return true

def oneOf (keys : List String) : Reading Bool := do
  if keys.contains (← peekKey) then
    skip
    return true
  else return false

def needWord (key : String) : Reading Unit := do if !(← word key) then fail

def needOneOf (keys : List String) : Reading Unit := do if !(← oneOf keys) then fail

def atSymbol (text : String) : Reading Bool := return (← peek) == .symbol text

def symbol (text : String) : Reading Bool := do
  if ← atSymbol text then
    skip
    return true
  else return false

def need (text : String) : Reading Unit := do if !(← symbol text) then fail

def atSymbolAfter (ahead : Nat) (text : String) : Reading Bool :=
  return (← peekAt ahead) == .symbol text

def nameWhere (isName : String → Bool) (allowsText : Bool) : Reading (Option String) := do
  let found := match ← peek with
    | .word text => if isName (upper text) then some text else none
    | .quoted text _ => some text
    | .string text => if allowsText then some text else none
    | _ => none
  if found.isSome then skip
  return found

def isPlainName (key : String) : Bool :=
  !reserved.contains key && !joinWords.contains key && key != "INDEXED"

def name : Reading String := do
  match ← nameWhere (!reserved.contains ·) true with
  | some name => return name
  | none => fail

def plainName? : Reading (Option String) := nameWhere isPlainName true

def plainName : Reading String := do
  match ← plainName? with
  | some name => return name
  | none => fail

def atWindows : Reading Bool := do
  if (← peekKey) != "WINDOW" then return false
  let named := match ← peekAt 1 with
    | .word text => !reserved.contains (upper text)
    | .quoted .. | .string .. => true
    | _ => false
  return named && (← peekKeyAt 2) == "AS"

def alias? : Reading (Option String) := do
  if ← word "AS" then some <$> name
  else if ← atWindows then return none
  else plainName?

def listOf {α : Type} (next : Reading α) : (bound : Nat) → Reading (List α)
  | 0 => fail
  | bound + 1 => do
    let first ← next
    if ← symbol "," then return first :: (← listOf next bound) else return [first]

def commas {α : Type} (next : Reading α) : Reading (List α) := do listOf next (← get).length

def repeatedly {α : Type} (next : Reading (Option α)) : (bound : Nat) → Reading (List α)
  | 0 => return []
  | bound + 1 => do
    match ← next with
    | some first => return first :: (← repeatedly next bound)
    | none => return []

def many {α : Type} (next : Reading (Option α)) : Reading (List α) := do
  repeatedly next (← get).length

def inParens {α : Type} (next : Reading α) : Reading α := do
  need "("
  let inside ← next
  need ")"
  return inside

def namesInParens : Reading (List String) := inParens (commas name)

def spelled {α : Type} (next : Reading α) : Reading (α × String) := do
  let before ← get
  let found ← next
  let taken := before.take (before.length - (← get).length)
  let start := (before.head?.map (·.start)).getD 0
  let stop := (taken.getLast?.map (·.stop)).getD start
  return (found, .ofList (((← read).drop start).take (stop - start)))

end Reading

end RowFence.Database
