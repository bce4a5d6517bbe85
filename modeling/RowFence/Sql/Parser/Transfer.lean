import RowFence.Sql.Parser.Change
import RowFence.Text.Quoted
import RowFence.Sql.Parser.Transaction

/-! COPY and MERGE, each after its keyword. -/

namespace RowFence.Sql.Parser

def literalChar : Parser String := do
  let found ← peek
  let s ← literalString
  if s.utf8ByteSize ≠ 1 then refuse ("Expect a char, found " ++ Text.quote s) found.place
  return s

def copyFlag (key : String) : Parser String := do
  if ← keyword "FALSE" then return key ++ " FALSE"
  let _ ← keyword "TRUE"
  return key

def copyOption : Parser String := do
  match ← oneOf? ["FORMAT", "FREEZE", "DELIMITER", "NULL", "HEADER", "QUOTE", "ESCAPE",
    "FORCE_QUOTE", "FORCE_NOT_NULL", "FORCE_NULL", "ENCODING"] with
  | some "FORMAT" => return "FORMAT " ++ (← identifier).spelling
  | some "FREEZE" => copyFlag "FREEZE"
  | some "HEADER" => copyFlag "HEADER"
  | some "NULL" => return "NULL " ++ Literal.single (← literalString)
  | some "ENCODING" => return "ENCODING " ++ Literal.single (← literalString)
  | some key =>
    if key.startsWith "FORCE" then return key ++ " (" ++ namesText (← columnNames false) ++ ")"
    else return key ++ " '" ++ (← literalChar) ++ "'"
  | none => expectedHere "option"

def csvOption : Parser String := do
  match ← oneOf? ["HEADER", "QUOTE", "ESCAPE", "FORCE"] with
  | some "HEADER" => return "HEADER"
  | some "FORCE" =>
    if ← keywords ["NOT", "NULL"] then
      return "FORCE NOT NULL " ++ namesText (← commaSeparated identifier)
    else if ← keyword "QUOTE" then return "FORCE QUOTE " ++ namesText (← commaSeparated identifier)
    else expectedHere "csv option"
  | some key =>
    let _ ← keyword "AS"
    return key ++ " '" ++ (← literalChar) ++ "'"
  | none => expectedHere "csv option"

def copyLegacyOption : Parser String := do
  match ← oneOf? ["BINARY", "DELIMITER", "NULL", "CSV"] with
  | some "DELIMITER" =>
    let _ ← keyword "AS"
    return "DELIMITER '" ++ (← literalChar) ++ "'"
  | some "NULL" =>
    let _ ← keyword "AS"
    return "NULL " ++ Literal.single (← literalString)
  | some "CSV" => return "CSV " ++ " ".intercalate (← many (maybe? csvOption))
  | some key => return key
  | none => expectedHere "option"

def copyTarget : Parser String := do
  if ← keyword "STDIN" then return "STDIN"
  if ← keyword "STDOUT" then return "STDOUT"
  if ← keyword "PROGRAM" then return "PROGRAM " ++ Literal.single (← literalString)
  return Literal.single (← literalString)

def copySource (g : Grammar) : Parser (Bool × List Piece) := do
  if ← symbol .lParen then
    let q ← g.query
    expectSymbol .rParen
    return (true, [.text "(", .query q, .text ")"])
  else
    let name ← objectName
    let columns ← columnNames true
    return (false, text (Name.spelling name
      ++ (if columns.isEmpty then "" else " (" ++ namesText columns ++ ")")))

/-! Data that follow the statement: fields between tabs and line ends, up to a backslash and a
period. A backslash and `N` stand for a null. -/

def gapFields (field : String) : List String → List (Option String) × String
  | [] => ([], field)
  | gap :: gaps =>
    if gap == "\t" || gap == "\n" then
      let (fields, left) := gapFields "" gaps
      (some field :: fields, left)
    else gapFields (field ++ gap) gaps

/-- The fields in tokens, the ending being the last of them, and how many tokens they take. -/
def dataFields (field : String) : List PlacedToken → List (Option String) × Nat
  | [] => ([], 0)
  | [last] => ((gapFields field last.gaps).1, 0)
  | found :: after :: rest =>
    let (closed, field) := gapFields field found.gaps
    if found.token != .symbol .backslash then
      let (fields, taken) := dataFields (field ++ found.token.text) (after :: rest)
      (closed ++ fields, taken + 1)
    else if after.token == .symbol .period then (closed, 2)
    else
      let (fields, taken) := dataFields field rest
      let null := match after.token with
        | .word w => if w.value == "N" then [none] else []
        | _ => []
      (closed ++ null ++ fields, taken + 2)

def copyData : Parser String := do
  let start ← get
  let (fields, taken) := dataFields "" ((← read).tokens.toList.drop start)
  set (start + taken)
  if fields.isEmpty then return ""
  return ";\n" ++ "\t".intercalate (fields.map (·.getD "\\N")) ++ "\n\\."

def copy (g : Grammar) : Parser Statement := do
  let (isQuery, source) ← copySource g
  let direction ← match ← oneOf? ["FROM", "TO"] with
    | some key => pure key
    | none => expectedHere "FROM or TO"
  if direction == "FROM" && isQuery then
    refuse "COPY ... FROM does not support query as a source" .ending
  let target ← copyTarget
  let _ ← keyword "WITH"
  let options ←
    if ← symbol .lParen then
      let options ← commaSeparated copyOption
      expectSymbol .rParen
      pure (" (" ++ listed options ++ ")")
    else pure ""
  let legacy ← many (maybe? copyLegacyOption)
  let data ←
    if target == "STDIN" then
      expectSymbol .semiColon
      copyData
    else pure ""
  return .other (.text "COPY " :: source
    ++ text (" " ++ direction ++ " " ++ target ++ options ++ String.join (legacy.map (" " ++ ·))
      ++ data))

/-! MERGE -/

inductive Matching where
  | both | neither | onlyTarget | onlySource
  deriving DecidableEq, Repr

namespace Matching

def spelling : Matching → String
  | both => "MATCHED"
  | neither => "NOT MATCHED"
  | onlyTarget => "NOT MATCHED BY SOURCE"
  | onlySource => "NOT MATCHED BY TARGET"

def hasTarget : Matching → Bool
  | both | onlyTarget => true
  | neither | onlySource => false

end Matching

def matchingClause : Parser Matching := do
  if ← keyword "NOT" then
    expectKeyword "MATCHED"
    if ← keywords ["BY", "SOURCE"] then return .onlyTarget
    if ← keywords ["BY", "TARGET"] then return .onlySource
    return .neither
  else
    expectKeyword "MATCHED"
    return .both

def mergeColumns : Parser (List Ident) := do
  if ← both (isAny [.mysql]) (symbols [.lParen, .rParen]) then return [] else columnNames true

def mergeInsert (g : Grammar) : Parser (List Piece) := do
  let columns ← mergeColumns
  let opening := "INSERT " ++ (if columns.isEmpty then "" else inParens (namesText columns) ++ " ")
  if ← both (isAny [.generic]) (keyword "ROW") then return text (opening ++ "ROW")
  expectKeyword "VALUES"
  return .text opening :: (← valuesRows g (← isAny [.mysql]))

def mergeAction (g : Grammar) (m : Matching) : Parser (List Piece) := do
  let notAllowed (action : String) : Parser Unit :=
    refuse (action ++ " is not allowed in a " ++ m.spelling ++ " merge clause") .ending
  match ← oneOf? ["UPDATE", "INSERT", "DELETE"] with
  | some "UPDATE" =>
    if !m.hasTarget then notAllowed "UPDATE"
    expectKeyword "SET"
    return .text "UPDATE SET " :: (← assignments g)
  | some "DELETE" =>
    if !m.hasTarget then notAllowed "DELETE"
    return text "DELETE"
  | some _ =>
    if m.hasTarget then notAllowed "INSERT"
    mergeInsert g
  | none => refuse "expected UPDATE, DELETE or INSERT in merge clause" .ending

def mergeClause (g : Grammar) : Parser (Option (List Piece)) := do
  match ← peekToken with
  | .ending | .symbol .semiColon => return none
  | _ =>
    expectKeyword "WHEN"
    let m ← matchingClause
    let condition ← if ← keyword "AND" then pure [.text " AND ", .expr (← g.expr)] else pure []
    expectKeyword "THEN"
    return some (.text ("WHEN " ++ m.spelling) :: condition ++ text " THEN " ++ (← mergeAction g m))

def merge (g : Grammar) : Parser Statement := do
  let into ← keyword "INTO"
  let target ← tableFactor g
  expectKeyword "USING"
  let source ← tableFactor g
  expectKeyword "ON"
  let condition ← g.expr
  let clauses ← many (mergeClause g)
  return .other ([.text (if into then "MERGE INTO " else "MERGE "), .table target,
    .text " USING ", .table source, .text " ON ", .expr condition, .text " "]
    ++ separatedBy " " clauses)

end RowFence.Sql.Parser
