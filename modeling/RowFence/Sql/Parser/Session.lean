import RowFence.Sql.Parser.Change
import RowFence.Sql.Parser.Transaction

/-! Statements about the session, the server and other statements. Each is read after its first
keyword. -/

namespace RowFence.Sql.Parser

def setRole (scope : Option String) : Parser Statement := do
  expectKeyword "ROLE"
  let scope := match scope with
    | some "LOCAL" => " LOCAL"
    | some "SESSION" => " SESSION"
    | _ => ""
  if ← keyword "NONE" then return plain ("SET" ++ scope ++ " ROLE NONE")
  else return plain ("SET" ++ scope ++ " ROLE " ++ (← identifier).spelling)

def setNames : Parser Statement := do
  if ← keyword "DEFAULT" then return plain "SET NAMES DEFAULT"
  let charset ← literalString
  if ← keyword "COLLATE" then
    return plain ("SET NAMES " ++ charset ++ " COLLATE " ++ (← literalString))
  else return plain ("SET NAMES " ++ charset)

def setValue (g : Grammar) : Parser (List Piece) := do
  if ← atQuery then return [.text "(", .query (← g.query), .text ")"]
  else return pieceOf (← exprOr g "variable value")

def setVariables (names : List String) (inList : Bool) (opening : String) (g : Grammar) :
    Parser Statement := do
  if inList then expectSymbol .lParen
  let values ← commaSeparated (setValue g)
  if inList then expectSymbol .rParen
  let wrap (pieces : List Piece) : List Piece := if inList then inPieceParens pieces else pieces
  return .other (.text opening :: wrap (text (listed names)) ++ text " = "
    ++ wrap (commaPieces values))

def setOther (g : Grammar) (scope : Option String) (localWord : String) (name : Name) :
    Parser Statement := do
  let spelling := Name.spelling name
  if spelling.toLower == "timezone" then
    return .other [.text ("SET " ++ localWord ++ "TIME ZONE "), .expr (← exprOr g "timezone value")]
  if spelling == "CHARACTERISTICS" then
    expectKeywords ["AS", "TRANSACTION"]
    return plain ("SET SESSION CHARACTERISTICS AS TRANSACTION" ++ (← transactionModes))
  if spelling == "TRANSACTION" && scope.isNone then
    if ← keyword "SNAPSHOT" then return plain ("SET TRANSACTION SNAPSHOT " ++ (← value))
    return plain ("SET TRANSACTION" ++ (← transactionModes))
  expectedHere "equals sign or TO"

def setStatement (g : Grammar) : Parser Statement := do
  let scope ← oneOf? ["SESSION", "LOCAL", "HIVEVAR"]
  let inHive := scope == some "HIVEVAR"
  if inHive then expectSymbol .colon
  else
    match ← maybe? (setRole scope) with
    | some s => return s
    | none => pure ()
  let localWord := if scope == some "LOCAL" then "LOCAL " else ""
  let opening := "SET " ++ localWord ++ (if inHive then "HIVEVAR:" else "")
  if ← both (isAny [.generic]) (symbol .lParen) then
    let names ← commaSeparated identifier
    expectSymbol .rParen
    if ← either (symbol .eq) (keyword "TO") then
      return ← setVariables (names.map Ident.spelling) true opening g
    expectedHere "set variable"
  let name : Name ←
    if ← keywords ["TIME", "ZONE"] then pure [⟨"TIMEZONE", none⟩] else objectName
  if ← both (pure ((Name.spelling name).toLower == "names")) (isAny [.mysql, .generic]) then
    return ← setNames
  if ← either (symbol .eq) (keyword "TO") then
    setVariables [Name.spelling name] false opening g
  else setOther g scope localWord name

/-! SHOW -/

def showFilter (g : Grammar) : Parser (List Piece) := do
  if ← keyword "LIKE" then
    return text (" LIKE " ++ Literal.single (← literalString))
  if ← keyword "ILIKE" then
    return text (" ILIKE " ++ String.ofList (doubleQuotes '\'' '\x00' (← literalString).toList))
  if ← keyword "WHERE" then return [.text " WHERE ", .expr (← g.expr)]
  match ← maybe? literalString with
  | some pattern => return text (" " ++ Literal.single pattern)
  | none => return []

def showColumns (g : Grammar) (opening : String) : Parser Statement := do
  let _ ← expectOneOf ["FROM", "IN"]
  let name ← objectName
  let owner ← if (← oneOf? ["FROM", "IN"]).isSome then pure [← identifier] else pure []
  return .other (.text (opening ++ "COLUMNS FROM " ++ Name.spelling (owner ++ name))
    :: (← showFilter g))

def showObjects (g : Grammar) (opening : String) : Parser Statement := do
  let place ← match ← oneOf? ["FROM", "IN"] with
    | some key => pure (" " ++ key ++ " " ++ (← identifier).spelling)
    | none => pure ""
  return .other (.text (opening ++ place) :: (← showFilter g))

def showCreate : Parser Statement := do
  let kind ← expectOneOf ["TABLE", "TRIGGER", "FUNCTION", "PROCEDURE", "EVENT", "VIEW"]
  return plain ("SHOW CREATE " ++ kind ++ " " ++ Name.spelling (← objectName))

def remainingWords : Parser (List String) := do
  let words ← many do
    match ← peekToken with
    | .ending | .symbol .eq => return none
    | .word w =>
      skip
      return some [(Ident.ofWord w).spelling]
    | _ =>
      skip
      return some []
  return words.flatten

def showStatement (g : Grammar) : Parser Statement := do
  let flag (key : String) : Parser String := return if ← keyword key then key ++ " " else ""
  let extended ← flag "EXTENDED"
  let full ← flag "FULL"
  let session ← flag "SESSION"
  let global ← flag "GLOBAL"
  let server := global ++ session
  let filtered (opening : String) : Parser Statement := do
    return .other (.text opening :: (← showFilter g))
  if (← oneOf? ["COLUMNS", "FIELDS"]).isSome then
    return ← showColumns g ("SHOW " ++ extended ++ full)
  if ← keyword "TABLES" then return ← showObjects g ("SHOW " ++ extended ++ full ++ "TABLES")
  if ← keywords ["MATERIALIZED", "VIEWS"] then return ← showObjects g "SHOW MATERIALIZED VIEWS"
  if ← keyword "VIEWS" then return ← showObjects g "SHOW VIEWS"
  if ← keyword "FUNCTIONS" then return ← filtered "SHOW FUNCTIONS"
  if !extended.isEmpty || !full.isEmpty then
    refuse "EXTENDED/FULL are not supported with this type of SHOW query" .ending
  if ← keyword "CREATE" then return ← showCreate
  if ← keyword "COLLATION" then return ← filtered "SHOW COLLATION"
  if ← both (keyword "VARIABLES") (isAny [.mysql, .generic]) then
    return ← filtered ("SHOW " ++ server ++ "VARIABLES")
  if ← both (keyword "STATUS") (isAny [.mysql, .generic]) then
    return ← filtered ("SHOW " ++ server ++ "STATUS")
  match ← oneOf? ["DATABASES", "SCHEMAS"] with
  | some key => filtered ("SHOW " ++ key)
  | none =>
    let words ← remainingWords
    return plain (" ".intercalate ("SHOW" :: words))

/-! EXPLAIN and its synonyms -/

def planOption (g : Grammar) : Parser (List Piece) := do
  let name ← identifier
  if ← either (atSymbol .comma) (atSymbol .rParen) then return text name.spelling
  else return [.text (name.spelling ++ " "), .expr (← g.expr)]

def planFormat : Parser String := do
  let found ← next
  match found.token.key with
  | "TEXT" | "GRAPHVIZ" | "JSON" => return found.token.key
  | _ => expected "fileformat" found

def explainVerbs : List String := ["EXPLAIN", "DESCRIBE", "DESC"]

def explain (g : Grammar) (verb : String) : Parser Statement := do
  let options ←
    if ← both (pure (verb == "EXPLAIN")) (both (isAny [.postgres, .generic]) (symbol .lParen)) then
      let options ← commaSeparated (planOption g)
      expectSymbol .rParen
      pure (inPieceParens (commaPieces options) ++ text " ")
    else
      if ← keywords ["QUERY", "PLAN"] then pure (text "QUERY PLAN ")
      else
        let analyze ← keyword "ANALYZE"
        let verbose ← keyword "VERBOSE"
        let format ←
          if ← keyword "FORMAT" then pure ("FORMAT " ++ (← planFormat) ++ " ") else pure ""
        pure (text ((if analyze then "ANALYZE " else "") ++ (if verbose then "VERBOSE " else "")
          ++ format))
  let nested := explainVerbs.contains (← peekKey)
  match ← maybe? g.statement with
  | some s =>
    if nested then refuse "Explain must be root of the plan" .ending
    return .other (.text (verb ++ " ") :: options ++ statementPieces s)
  | none =>
    let format ← match ← oneOf? ["EXTENDED", "FORMATTED"] with
      | some key => pure (key ++ " ")
      | none => pure ""
    return plain (verb ++ " " ++ format ++ Name.spelling (← objectName))

def analyzeClause (g : Grammar) : Parser (Option (String × List Piece)) := do
  match ← oneOf? ["PARTITION", "FOR", "CACHE", "NOSCAN", "COMPUTE"] with
  | none => return none
  | some "PARTITION" =>
    return some ("PARTITION", inPieceParens (exprPieces (← parenthesized (commaSeparated g.expr))))
  | some "FOR" =>
    expectKeyword "COLUMNS"
    let columns := (← maybe? (commaSeparated identifier)).getD []
    return some ("FOR COLUMNS", text (if columns.isEmpty then "" else " " ++ namesText columns))
  | some "CACHE" =>
    expectKeyword "METADATA"
    return some ("CACHE METADATA", [])
  | some "COMPUTE" =>
    expectKeyword "STATISTICS"
    return some ("COMPUTE STATISTICS", [])
  | some key => return some (key, [])

def analyze (g : Grammar) : Parser Statement := do
  expectKeyword "TABLE"
  let name ← objectName
  let clauses ← many (analyzeClause g)
  let spell (key : String) : List Piece :=
    match (clauses.filter (·.1 == key)).getLast? with
    | some (_, pieces) => .text (" " ++ key ++ (if key == "PARTITION" then " " else "")) :: pieces
    | none => []
  return .other (.text ("ANALYZE TABLE " ++ Name.spelling name)
    :: ["PARTITION", "COMPUTE STATISTICS", "NOSCAN", "CACHE METADATA", "FOR COLUMNS"].flatMap spell)

/-! Others -/

def useStatement : Parser Statement := do return plain ("USE " ++ Name.spelling (← objectName))

def kill : Parser Statement := do
  let modifier ← oneOf? ["CONNECTION", "QUERY", "MUTATION"]
  let id ← literalNat
  if modifier == some "MUTATION" && (← dialect) != .generic then
    expectedHere "Unsupported type for KILL, allowed: CONNECTION | QUERY"
  return plain ("KILL " ++ ((modifier.map (· ++ " ")).getD "") ++ toString id)

def flushKinds : List (List String) :=
  [["BINARY", "LOGS"], ["ENGINE", "LOGS"], ["ERROR", "LOGS"], ["GENERAL", "LOGS"], ["HOSTS"],
    ["PRIVILEGES"], ["OPTIMIZER_COSTS"], ["RELAY", "LOGS"], ["SLOW", "LOGS"], ["STATUS"],
    ["USER_RESOURCES"], ["LOGS"]]

def flushTables : Parser String := do
  let parts ← many do
    let found ← next
    match found.token with
    | .word w =>
      if w.key == "WITH" then
        return some ("read", if ← keywords ["READ", "LOCK"] then " WITH READ LOCK" else "")
      if w.key == "FOR" then
        return some ("export", if ← keyword "EXPORT" then " FOR EXPORT" else "")
      if w.quote.isSome || !isKeyword w.key then
        back
        return some ("tables", " " ++ listed ((← commaSeparated objectName).map Name.spelling))
      return some ("", "")
    | _ => return none
  let spell (key : String) := ((parts.filter (·.1 == key)).getLast?.map (·.2)).getD ""
  return spell "tables" ++ spell "read" ++ spell "export"

def flushStatement : Parser Statement := do
  if !(← isAny [.mysql, .generic]) then refuse "Unsupported statement FLUSH" (← peek).place
  let location ← match ← oneOf? ["NO_WRITE_TO_BINLOG", "LOCAL"] with
    | some key => pure (" " ++ key)
    | none => pure ""
  match ← firstKeywords flushKinds with
  | some keys =>
    let channel ←
      if ← both (pure (keys == ["RELAY", "LOGS"])) (keywords ["FOR", "CHANNEL"]) then
        pure (" FOR CHANNEL " ++ Name.spelling (← objectName))
      else pure ""
    return plain ("FLUSH" ++ location ++ " " ++ " ".intercalate keys ++ channel)
  | none =>
    if ← keyword "TABLES" then return plain ("FLUSH" ++ location ++ " TABLES" ++ (← flushTables))
    expectedHere ("BINARY LOGS, ENGINE LOGS, ERROR LOGS, GENERAL LOGS, HOSTS, LOGS, PRIVILEGES, "
      ++ "OPTIMIZER_COSTS,RELAY LOGS [FOR CHANNEL channel], SLOW LOGS, STATUS, "
      ++ "USER_RESOURCES")

def lockedTable : Parser String := do
  let name ← identifier
  let alias? ← optionalAlias ["READ", "WRITE", "LOW_PRIORITY"]
  let aliasText := (alias?.map fun a => " AS " ++ a.spelling).getD ""
  let mode ←
    if ← keyword "READ" then pure (if ← keyword "LOCAL" then "READ LOCAL" else "READ")
    else
      match ← firstKeywords [["WRITE"], ["LOW_PRIORITY", "WRITE"]] with
      | some keys => pure (" ".intercalate keys)
      | none => expectedHere "an lock type in LOCK TABLES"
  return name.spelling ++ aliasText ++ " " ++ mode

def lockTables : Parser Statement := do
  return plain ("LOCK TABLES " ++ listed (← commaSeparated lockedTable))

def callStatement (g : Grammar) : Parser Statement := do
  let name ← objectName
  if ← atSymbol .lParen then return .other [.text "CALL ", .expr (← call g name)]
  else return plain ("CALL " ++ Name.spelling name)

def assertStatement (g : Grammar) : Parser Statement := do
  let condition ← g.expr
  let message ← if ← keyword "AS" then pure [.text " AS ", .expr (← g.expr)] else pure []
  return .other (.text "ASSERT " :: .expr condition :: message)

/-- A number, a string or a parameter; a name in double quotes counts as a string. -/
def pragmaValue : Parser String := do
  let found ← peek
  let spelling ← value
  match found.token with
  | .word ⟨_, some '"', _⟩ => return spelling
  | .string .single _ | .string .double _ | .number _ _ | .parameter _ | .symbol .colon
  | .symbol .atSign => return spelling
  | _ =>
    back
    expectedHere "number or string or ? placeholder"

def pragma : Parser Statement := do
  let name ← objectName
  if ← symbol .lParen then
    let v ← pragmaValue
    expectSymbol .rParen
    return plain ("PRAGMA " ++ Name.spelling name ++ inParens v)
  else if ← symbol .eq then return plain ("PRAGMA " ++ Name.spelling name ++ " = " ++ (← pragmaValue))
  else return plain ("PRAGMA " ++ Name.spelling name)

def attach (g : Grammar) : Parser Statement := do
  let database ← keyword "DATABASE"
  let file ← g.expr
  expectKeyword "AS"
  return .other [.text (if database then "ATTACH DATABASE " else "ATTACH "), .expr file,
    .text (" AS " ++ (← identifier).spelling)]

def prepareStatement (g : Grammar) : Parser Statement := do
  let name ← identifier
  let types ←
    if ← symbol .lParen then
      let types ← commaSeparated (dataType g)
      expectSymbol .rParen
      pure (inPieceParens (commaPieces (types.map (·.pieces))) ++ text " ")
    else pure []
  expectKeyword "AS"
  return .other (.text ("PREPARE " ++ name.spelling ++ " ") :: types ++ .text "AS "
    :: statementPieces (← g.statement))

def execute (g : Grammar) : Parser Statement := do
  let name ← objectName
  let values (es : List Expr) : List Piece := exprPieces es
  let parameters ←
    if ← symbol .lParen then
      let es ← commaSeparated0 g.expr .rParen
      expectSymbol .rParen
      pure (inPieceParens (values es))
    else
      let atEnd := (← peekToken) == .ending
      if ← either (pure atEnd) (either (atKeyword "USING") (atSymbol .semiColon)) then pure []
      else
        let es ← commaSeparated g.expr
        pure (.text " " :: values es)
  let used ←
    if ← keyword "USING" then pure (.text " USING " :: values (← commaSeparated g.expr))
    else pure []
  return .other (.text ("EXECUTE " ++ Name.spelling name) :: parameters ++ used)

def declare (g : Grammar) : Parser Statement := do
  let name ← identifier
  let binary ← keyword "BINARY"
  let sensitive ← match ← oneOf? ["INSENSITIVE", "ASENSITIVE"] with
    | some key => pure (" " ++ key)
    | none => pure ""
  let scroll ← phrase [["SCROLL"], ["NO", "SCROLL"]]
  expectKeyword "CURSOR"
  let hold ← match ← oneOf? ["WITH", "WITHOUT"] with
    | some key => do
      expectKeyword "HOLD"
      pure (" " ++ key ++ " HOLD")
    | none => pure ""
  expectKeyword "FOR"
  let q ← g.query
  return .other [.text ("DECLARE " ++ name.spelling ++ (if binary then " BINARY" else "")
    ++ sensitive ++ scroll ++ " CURSOR" ++ hold ++ " FOR "), .query q]

def listenStatement : Parser Statement := do return plain ("LISTEN " ++ (← identifier).spelling)

def notify : Parser Statement := do
  let channel ← identifier
  if ← symbol .comma then
    return plain ("NOTIFY " ++ channel.spelling ++ ", '" ++ (← literalString) ++ "'")
  else return plain ("NOTIFY " ++ channel.spelling)

end RowFence.Sql.Parser
