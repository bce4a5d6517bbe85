import RowFence.Sql.Parser.Query

/-! Statements that change rows: INSERT, UPDATE and DELETE, each after its keyword. -/

namespace RowFence.Sql.Parser

def conflictActions : List String := ["REPLACE", "ROLLBACK", "ABORT", "FAIL", "IGNORE"]

def conflictClause : Parser (Option String) := do
  if (← dialect) != .sqlite then return none
  if (← atKeyword "OR") && conflictActions.contains (← peekKeyAt 1) then
    skip
    return some (← next).token.key
  if ← keyword "REPLACE" then return some "REPLACE" else return none

def insertPriority : Parser String := do
  if ← isAny [.mysql, .generic] then
    match ← oneOf? ["LOW_PRIORITY", "DELAYED", "HIGH_PRIORITY"] with
    | some key => return " " ++ key
    | none => return ""
  else return ""

def assignmentTarget : Parser String := do
  if ← symbol .lParen then
    let names ← commaSeparated objectName
    expectSymbol .rParen
    return inParens (listed (names.map Name.spelling))
  else return Name.spelling (← objectName)

def assignment (g : Grammar) : Parser (List Piece) := do
  let target ← assignmentTarget
  expectSymbol .eq
  return .text (target ++ " = ") :: pieceOf (← g.expr)

def assignments (g : Grammar) : Parser (List Piece) := do
  return commaPieces (← commaSeparated (assignment g))

def returningClause (g : Grammar) : Parser (List Piece) := do
  if ← keyword "RETURNING" then
    return .text " RETURNING " :: commaPieces ((← commaSeparated (selectItem g)).map itemPieces)
  else return []

def whereClause (g : Grammar) : Parser (List Piece) := do
  match ← optionalExpr g "WHERE" with
  | some e => return [.text " WHERE ", .expr e]
  | none => return []

def conflictTarget : Parser String := do
  if ← keywords ["ON", "CONSTRAINT"] then return " ON CONSTRAINT " ++ Name.spelling (← objectName)
  else if ← atSymbol .lParen then return inParens (namesText (← columnNames false))
  else return ""

def onInsert (g : Grammar) : Parser (List Piece) := do
  if !(← keyword "ON") then return []
  if ← keyword "CONFLICT" then
    let target ← conflictTarget
    expectKeyword "DO"
    if ← keyword "NOTHING" then return text (" ON CONFLICT" ++ target ++ " DO NOTHING")
    expectKeyword "UPDATE"
    expectKeyword "SET"
    let changes ← assignments g
    return .text (" ON CONFLICT" ++ target ++ " DO UPDATE SET ") :: changes ++ (← whereClause g)
  expectKeywords ["DUPLICATE", "KEY", "UPDATE"]
  return .text " ON DUPLICATE KEY UPDATE " :: (← assignments g)

def fileFormat : Parser String := do
  match ← oneOf? ["AVRO", "JSONFILE", "ORC", "PARQUET", "RCFILE", "SEQUENCEFILE", "TEXTFILE"] with
  | some key => return key
  | none => expectedHere "fileformat"

def insertDirectory (g : Grammar) (overwrite isLocal : Bool) : Parser Statement := do
  let path ← literalString
  let format ←
    if ← keywords ["STORED", "AS"] then pure (" STORED AS " ++ (← fileFormat)) else pure ""
  let source ← g.query
  return .other [.text ("INSERT" ++ (if overwrite then " OVERWRITE" else "")
    ++ (if isLocal then " LOCAL" else "") ++ " DIRECTORY '" ++ path ++ "'" ++ format ++ " "),
    .query source]

def insertColumns (g : Grammar) : Parser (List Piece) := do
  let columns ←
    if ← both (isAny [.mysql]) (symbols [.lParen, .rParen]) then pure []
    else columnNames true
  let partition ←
    if ← keyword "PARTITION" then
      let es ← parenthesized (commaSeparated g.expr)
      pure (.text "PARTITION (" :: exprPieces es ++ text ") ")
    else pure []
  return (if columns.isEmpty then [] else text (inParens (namesText columns) ++ " ")) ++ partition

def insertAlias : Parser (List Piece) := do
  if ← both (isAny [.mysql, .generic]) (keyword "AS") then
    let row ← objectName
    let columns ← columnNames true
    return text (" AS " ++ Name.spelling row
      ++ (if columns.isEmpty then "" else " " ++ inParens (namesText columns)))
  else return []

def insertWith (g : Grammar) (verb : String) : Parser Statement := do
  let conflict ← conflictClause
  let priority ← insertPriority
  let ignore ← if ← isAny [.mysql, .generic] then keyword "IGNORE" else pure false
  let overwrite ← keyword "OVERWRITE"
  let into ← keyword "INTO"
  let isLocal ← keyword "LOCAL"
  if ← keyword "DIRECTORY" then return ← insertDirectory g overwrite isLocal
  let table ← keyword "TABLE"
  let name ← objectName
  let named ←
    if ← both (isAny [.postgres]) (keyword "AS") then
      pure (" AS " ++ (← identifier).spelling)
    else pure ""
  let target := Name.spelling name ++ named ++ " "
  let start := match conflict with
    | some action => "INSERT OR " ++ action ++ " INTO " ++ target
    | none =>
      verb ++ priority ++ (if ignore then " IGNORE" else "")
        ++ (if overwrite then " OVERWRITE" else "") ++ (if into then " INTO" else "")
        ++ (if table then " TABLE " else " ") ++ target
  let source ←
    if ← keywords ["DEFAULT", "VALUES"] then pure (text "DEFAULT VALUES")
    else
      let columns ← insertColumns g
      pure (columns ++ [.query (← g.query)])
  let rowAlias ← insertAlias
  let on ← onInsert g
  let returning ← returningClause g
  return .other (.text start :: source ++ rowAlias ++ on ++ returning)

def insert (g : Grammar) : Parser Statement := insertWith g "INSERT"

def update (g : Grammar) : Parser Statement := do
  let target ← tableWithJoins g
  expectKeyword "SET"
  let changes ← assignments g
  let source? ←
    if ← both (keyword "FROM") (isAny [.generic, .postgres, .sqlite]) then
      some <$> tableWithJoins g
    else pure none
  let condition ← optionalExpr g "WHERE"
  let returning ← returningClause g
  return .update { target, assignments := .text " SET " :: changes, source?, condition, returning }

def delete (g : Grammar) : Parser Statement := do
  let fromKeyword ← keyword "FROM"
  let generic := (← dialect) == .generic
  let named ←
    if fromKeyword || generic then pure []
    else
      let names ← commaSeparated objectName
      expectKeyword "FROM"
      pure names
  let targets ← commaSeparated (tableWithJoins g)
  let sources ← if ← keyword "USING" then commaSeparated (tableWithJoins g) else pure []
  let condition ← optionalExpr g "WHERE"
  let returning ← returningClause g
  let order ←
    if ← keywords ["ORDER", "BY"] then pure (.text " ORDER BY " :: (← orderList g)) else pure []
  let limit ← if ← keyword "LIMIT" then limitExpr g else pure none
  let limitPieces := limit.toList.flatMap fun e => [.text " LIMIT ", .expr e]
  return .delete { named, fromKeyword := fromKeyword || !generic, targets, sources, condition,
                   tail := returning ++ order ++ limitPieces }

end RowFence.Sql.Parser
