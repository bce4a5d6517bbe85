import RowFence.Sql.Parser.Basic
import RowFence.Sql.Keyword

/-! Names, aliases and literals. -/

namespace RowFence.Sql.Parser

def identifier : Parser Ident := do
  let found ← next
  match found.token with
  | .word w => return .ofWord w
  | .string .single s => return ⟨s, some '\''⟩
  | .string .double s => return ⟨s, some '"'⟩
  | _ => expected "identifier" found

def objectName : Parser Name := separated (symbol .period) identifier

def parenthesizedNames : Parser (List Ident) := parenthesized (commaSeparated identifier)

def columnNames (optional : Bool) : Parser (List Ident) := do
  if ← symbol .lParen then
    let names ← commaSeparated identifier
    expectSymbol .rParen
    return names
  else if optional then return []
  else expectedHere "a list of columns in parentheses"

def namesText (names : List Ident) : String := listed (names.map Ident.spelling)

def tableStops : List String :=
  ["WITH", "EXPLAIN", "ANALYZE", "SELECT", "WHERE", "GROUP", "SORT", "HAVING", "ORDER", "PIVOT",
    "UNPIVOT", "TOP", "LATERAL", "VIEW", "LIMIT", "OFFSET", "FETCH", "UNION", "EXCEPT",
    "INTERSECT", "ON", "JOIN", "INNER", "CROSS", "FULL", "LEFT", "RIGHT", "NATURAL", "USING",
    "CLUSTER", "DISTRIBUTE", "GLOBAL", "OUTER", "SET", "QUALIFY", "WINDOW", "END", "FOR",
    "PARTITION", "PREWHERE", "SETTINGS", "FORMAT", "START", "CONNECT", "MATCH_RECOGNIZE"]

def columnStops : List String :=
  ["WITH", "EXPLAIN", "ANALYZE", "SELECT", "WHERE", "GROUP", "SORT", "HAVING", "ORDER", "TOP",
    "LATERAL", "VIEW", "LIMIT", "OFFSET", "FETCH", "UNION", "EXCEPT", "INTERSECT", "CLUSTER",
    "DISTRIBUTE", "FROM", "INTO", "END"]

def optionalAlias (stops : List String) : Parser (Option Ident) := do
  let after ← keyword "AS"
  let found ← next
  match found.token with
  | .word w =>
    if after || !stops.contains w.key then return some (.ofWord w)
  | .string .single s => return some ⟨s, some '\''⟩
  | .string .double s => return some ⟨s, some '"'⟩
  | _ => pure ()
  if after then expected "an identifier after AS" found
  back
  return none

def literalString : Parser String := do
  let found ← next
  match found.token with
  | .word w => if w.quote.isSome || !isKeyword w.key then return w.value
  | .string .single s | .string .double s | .string .unicode s => return s
  | .string .escaped s => if ← isAny [.postgres, .generic] then return s
  | _ => pure ()
  expected "literal string" found

/-- The number that decimal digits denote, below a bound that must hold at every digit. -/
def boundedNumber (bound : Nat) : List Char → (read : Nat) → Except String Nat
  | [], n => .ok n
  | c :: rest, n =>
    if !c.isDigit then .error "invalid digit found in string"
    else if 10 * n + (c.toNat - '0'.toNat) < bound then
      boundedNumber bound rest (10 * n + (c.toNat - '0'.toNat))
    else .error "number too large to fit in target type"

def numberOfBits (bits : Nat) (digits : String) (place : Position) : Parser Nat :=
  match boundedNumber (Nat.pow 2 bits) digits.toList 0 with
  | .ok n => return n
  | .error reason =>
    refuse ("Could not parse '" ++ digits ++ "' as u" ++ toString bits ++ ": " ++ reason) place

def literalOfBits (bits : Nat) : Parser Nat := do
  let found ← next
  match found.token with
  | .number digits _ => numberOfBits bits digits found.place
  | _ => expected "literal int" found

def literalNat : Parser Nat := literalOfBits 64

def parameterName (sign : Symbol) : Parser String := do
  let found ← next
  match found.token with
  | .word w => return sign.spelling ++ w.value
  | .number digits false => return sign.spelling ++ digits
  | _ => expected "placeholder" found

def value : Parser String := do
  let found ← next
  match found.token with
  | .word w =>
    match w.key with
    | "TRUE" => return "true"
    | "FALSE" => return "false"
    | "NULL" => return "NULL"
    | _ =>
      if w.quote = some '"' then return Literal.string .double w.value
      else if w.quote.isSome then expected "A value?" found
      else expected "a concrete value" found
  | .number digits long => return if long then digits ++ "L" else digits
  | .string .escaped s =>
    if ← isAny [.postgres, .generic] then return Literal.string .escaped s
    expected "a value" found
  | .string kind s => return Literal.string kind s
  | .dollarString _ _ => return found.token.text
  | .parameter s => return s
  | .symbol .colon => parameterName .colon
  | .symbol .atSign => parameterName .atSign
  | _ => expected "a value" found

def numberValue : Parser String := do
  let found ← peek
  let spelling ← value
  match found.token with
  | .number _ _ | .parameter _ | .symbol .colon | .symbol .atSign => return spelling
  | _ =>
    back
    expectedHere "literal number"

def signedNumber : Parser String := do
  if ← symbol .plus then return "+" ++ (← numberValue)
  else if ← symbol .minus then return "-" ++ (← numberValue)
  else numberValue

end RowFence.Sql.Parser
