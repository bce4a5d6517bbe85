import RowFence.Sql.Parser.Names
import RowFence.Sql.Printer

/-! Data types. A nested table type holds column definitions, and these hold expressions. -/

namespace RowFence.Sql

/-- A type without a keyword of its own is told by the first part of its name. -/
inductive TypeKind where
  | builtin | interval
  | custom (first : Ident)
  deriving DecidableEq

structure DataType where
  pieces : List Piece
  kind : TypeKind

namespace Parser

def inParens (s : String) : String := "(" ++ s ++ ")"

def optionalPrecision : Parser String := do
  if ← symbol .lParen then
    let n ← literalNat
    expectSymbol .rParen
    return inParens (toString n)
  else return ""

def characterLength : Parser String := do
  if ← symbol .lParen then
    let length ←
      if ← keyword "MAX" then pure "MAX" else
        let n ← literalNat
        let unit ← phrase [["CHARACTERS"], ["OCTETS"]]
        pure (toString n ++ unit)
    expectSymbol .rParen
    return inParens length
  else return ""

def exactNumber : Parser String := do
  if ← symbol .lParen then
    let precision ← literalNat
    let scale ← if ← symbol .comma then pure ("," ++ toString (← literalNat)) else pure ""
    expectSymbol .rParen
    return inParens (toString precision ++ scale)
  else return ""

def stringValue : Parser String := do
  let found ← next
  match found.token with
  | .string .single s => return Literal.single s
  | _ => expected "a string" found

def stringValues : Parser String := do
  expectSymbol .lParen
  let first ← stringValue
  let others ← many do
    let found ← next
    match found.token with
    | .symbol .comma => some <$> stringValue
    | .symbol .rParen => return none
    | _ => expected ", or \x7d" found
  return inParens (listed (first :: others))

def integerType (name : String) : Parser String := do
  let width ← optionalPrecision
  return name ++ width ++ (if ← keyword "UNSIGNED" then " UNSIGNED" else "")

def zoned (name : String) : Parser String := do
  let precision ← optionalPrecision
  if ← keyword "WITH" then
    expectKeywords ["TIME", "ZONE"]
    return name ++ precision ++ " WITH TIME ZONE"
  else if ← keyword "WITHOUT" then
    expectKeywords ["TIME", "ZONE"]
    return name ++ precision ++ " WITHOUT TIME ZONE"
  else return name ++ precision

def characterType (name : String) : Parser String := do
  if ← keyword "VARYING" then return name ++ " VARYING" ++ (← characterLength)
  else if ← keywords ["LARGE", "OBJECT"] then return name ++ " LARGE OBJECT" ++ (← optionalPrecision)
  else return name ++ (← characterLength)

def typeModifiers : Parser (List String) := do
  let found ← many do
    let found ← next
    match found.token with
    | .word _ => return some [found.token.text]
    | .number digits _ => return some [digits]
    | .string .single s => return some [s]
    | .symbol .comma => return some []
    | .symbol .rParen => return none
    | _ => expected "type modifiers" found
  return found.flatten

def customType : Parser DataType := do
  let first ← identifier
  let rest ← many do if ← symbol .period then some <$> identifier else return none
  let name := Name.spelling (first :: rest)
  let modifiers ← if ← symbol .lParen then typeModifiers else pure []
  let spelling := if modifiers.isEmpty then name else name ++ inParens (listed modifiers)
  return ⟨text spelling, .custom first⟩

def plainType? (key : String) : Option (Parser String) :=
  match key with
  | "BOOLEAN" | "BOOL" | "REAL" | "FLOAT4" | "FLOAT64" | "FLOAT8" | "INT64"
  | "UUID" | "DATE" | "JSON" | "JSONB" | "REGCLASS" | "TEXT" | "BYTEA" | "TRIGGER" =>
    some (pure key)
  | "FLOAT32" => some (pure "Float32")
  | "INT16" => some (pure "Int16")
  | "INT32" => some (pure "Int32")
  | "INT128" => some (pure "Int128")
  | "INT256" => some (pure "Int256")
  | "UINT8" => some (pure "UInt8")
  | "UINT16" => some (pure "UInt16")
  | "UINT32" => some (pure "UInt32")
  | "UINT64" => some (pure "UInt64")
  | "UINT128" => some (pure "UInt128")
  | "UINT256" => some (pure "UInt256")
  | "DATE32" => some (pure "Date32")
  | "DOUBLE" => some do return if ← keyword "PRECISION" then "DOUBLE PRECISION" else "DOUBLE"
  | "FLOAT" | "CLOB" | "BINARY" | "VARBINARY" | "BLOB" | "BYTES" | "DATETIME" | "STRING" =>
    some do return key ++ (← optionalPrecision)
  | "TINYINT" | "INT2" | "SMALLINT" | "MEDIUMINT" | "INT" | "INT4" | "INT8" | "INTEGER"
  | "BIGINT" => some (integerType key)
  | "VARCHAR" | "NVARCHAR" => some do return key ++ (← characterLength)
  | "CHARACTER" | "CHAR" => some (characterType key)
  | "TIMESTAMP" | "TIME" => some (zoned key)
  | "TIMESTAMPTZ" | "TIMETZ" => some do return key ++ (← optionalPrecision)
  | "NUMERIC" | "DECIMAL" | "DEC" | "BIGNUMERIC" | "BIGDECIMAL" => some do return key ++ (← exactNumber)
  | "ENUM" | "SET" => some do return key ++ (← stringValues)
  | "FIXEDSTRING" => some do
    expectSymbol .lParen
    let n ← literalNat
    expectSymbol .rParen
    return "FixedString" ++ inParens (toString n)
  | "DATETIME64" => some do
    expectSymbol .lParen
    let precision ← literalNat
    let zone ← if ← symbol .comma then pure (", '" ++ (← literalString) ++ "'") else pure ""
    expectSymbol .rParen
    return "DateTime64" ++ inParens (toString precision ++ zone)
  | _ => none

/-- The bracket that closes type arguments. Of `>>` the second half is left for the type around. -/
def closingAngle (closed : Bool) : Parser Bool := do
  if closed then return false
  if ← symbol .gt then return false
  if ← symbol .shiftRight then return true
  expectedHere ">"

def structFields (start : Position) (field : Parser (List Piece × Bool)) :
    (bound : Nat) → Parser (List (List Piece) × Bool)
  | 0 => return ([], false)
  | bound + 1 => do
    let (first, closed) ← field
    if ← symbol .comma then
      if closed then refuse "unmatched > in STRUCT definition" start
      let (others, closed) ← structFields start field bound
      return (first :: others, closed)
    else return ([first], ← closingAngle closed)

def structField (type : Parser (DataType × Bool)) : Parser (List Piece × Bool) := do
  match (← peekToken), (← peekAt 1).token with
  | .word _, .word _ =>
    let name ← identifier
    let (t, closed) ← type
    return (.text (name.spelling ++ " ") :: t.pieces, closed)
  | _, _ =>
    let (t, closed) ← type
    return (t.pieces, closed)

def arraySuffixes (t : DataType) : Parser DataType := do
  let suffixes ← many do
    if ← symbol .lBracket then
      let size ←
        if ← isAny [.generic, .postgres] then maybe? literalNat else pure none
      expectSymbol .rBracket
      return some ("[" ++ (size.map toString).getD "" ++ "]")
    else return none
  if suffixes.isEmpty then return t
  return ⟨t.pieces ++ text (String.join suffixes), .builtin⟩

def closedType (type : Parser (DataType × Bool)) : Parser DataType := do
  let (t, closed) ← type
  if closed then
    refuse ("unmatched > after parsing data type " ++ spellPieces t.pieces ++ (← peekToken).text)
      .ending
  return t

def extraType? (g : Grammar) (within : Parser (DataType × Bool)) (start : Position) (bound : Nat)
    (key : String) : Option (Parser (List Piece × Bool)) :=
  let wrapped (name : String) : Parser (List Piece × Bool) := do
    let t ← parenthesized (closedType within)
    return (.text (name ++ "(") :: t.pieces ++ text ")", false)
  let listOf (name : String) (item : Parser (List Piece)) : Parser (List Piece × Bool) := do
    let items ← parenthesized (commaSeparated item)
    return (.text (name ++ "(") :: commaPieces items ++ text ")", false)
  match key with
  | "STRUCT" => some do
    if ← symbol .lt then
      let (fields, closed) ← structFields start (structField within) bound
      return (.text "STRUCT<" :: commaPieces fields ++ text ">", closed)
    else return (text "STRUCT", false)
  | "UNION" => some (listOf "UNION" do
    let name ← identifier
    return .text (name.spelling ++ " ") :: (← closedType within).pieces)
  | "NULLABLE" => some (wrapped "Nullable")
  | "LOWCARDINALITY" => some (wrapped "LowCardinality")
  | "MAP" => some do
    expectSymbol .lParen
    let k ← closedType within
    expectSymbol .comma
    let v ← closedType within
    expectSymbol .rParen
    return (.text "Map(" :: k.pieces ++ .text ", " :: v.pieces ++ text ")", false)
  | "NESTED" => some (listOf "Nested" g.column)
  | "TUPLE" => some (listOf "Tuple" do return (← structField within).1)
  | _ => none

/-- A type, and whether it took the closing bracket of the type around along. -/
def dataTypeWithin (g : Grammar) : (depth : Nat) → Parser (DataType × Bool)
  | 0 => fail .tooDeep
  | depth + 1 => do
    let within := dataTypeWithin g depth
    let found ← next
    match found.token with
    | .word w =>
      let extra? :=
        if (← dialect) == .generic then extraType? g within found.place (depth + 1) w.key else none
      let (t, closed) ← match w.key, plainType? w.key, extra? with
        | _, some p, _ => pure (⟨text (← p), .builtin⟩, false)
        | "INTERVAL", _, _ => pure (⟨text "INTERVAL", .interval⟩, false)
        | "ARRAY", _, _ =>
          expectSymbol .lt
          let (t, closed) ← within
          let closed ← closingAngle closed
          pure (⟨.text "ARRAY<" :: t.pieces ++ text ">", .builtin⟩, closed)
        | _, _, some p =>
          let (pieces, closed) ← p
          pure (⟨pieces, .builtin⟩, closed)
        | _, _, none =>
          back
          pure (← customType, false)
      return (← arraySuffixes t, closed)
    | _ => expected "a data type name" found

def dataType (g : Grammar) : Parser DataType := do
  closedType (dataTypeWithin g ((← read).tokens.size + 1))

end Parser

end RowFence.Sql
