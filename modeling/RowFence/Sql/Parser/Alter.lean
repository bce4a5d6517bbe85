import RowFence.Sql.Parser.Role
import RowFence.Sql.Parser.Routine

/-! Changes to what is defined: DROP, TRUNCATE, COMMENT and ALTER, each after its keyword. -/

namespace RowFence.Sql.Parser

def droppable : List String :=
  ["TABLE", "VIEW", "INDEX", "ROLE", "SCHEMA", "DATABASE", "SEQUENCE", "STAGE", "TYPE"]

def dropTrigger : Parser Statement := do
  if !(← isAny [.postgres, .generic]) then
    back
    expectedHere "an object type after DROP"
  let condition ← ifExists
  let name ← objectName
  expectKeyword "ON"
  let table ← objectName
  return plain ("DROP TRIGGER " ++ condition ++ Name.spelling name ++ " ON " ++ Name.spelling table
    ++ (← cascadeOrRestrict))

def dropRoutine (g : Grammar) (kind : String) : Parser Statement := do
  let condition ← ifExists
  let routines ← commaSeparated (routine g)
  let behaviour ← cascadeOrRestrict
  return .other (.text ("DROP " ++ kind ++ " " ++ condition) :: commaPieces routines
    ++ text behaviour)

def dropSecret (temporary : Bool) : Parser Statement := do
  let condition ← ifExists
  let name ← identifier
  let place ←
    if ← keyword "FROM" then
      match ← lenient? identifier with
      | some place => pure (" FROM " ++ place.spelling)
      | none => pure ""
    else pure ""
  return plain ((if temporary then "DROP TEMPORARY SECRET " else "DROP SECRET ") ++ condition
    ++ name.spelling ++ place)

def drop (g : Grammar) : Parser Statement := do
  let temporary ← both (isAny [.mysql, .generic]) (keyword "TEMPORARY")
  match ← oneOf? (droppable ++ ["FUNCTION", "POLICY", "PROCEDURE", "SECRET", "TRIGGER"]) with
  | none =>
    expectedHere ("TABLE, VIEW, INDEX, ROLE, SCHEMA, DATABASE, FUNCTION, PROCEDURE, STAGE, "
      ++ "TRIGGER, SECRET, SEQUENCE, or TYPE after DROP")
  | some "FUNCTION" => dropRoutine g "FUNCTION"
  | some "POLICY" => dropPolicy
  | some "PROCEDURE" => dropRoutine g "PROCEDURE"
  | some "SECRET" => dropSecret temporary
  | some "TRIGGER" => dropTrigger
  | some kind =>
    let condition ← if ← keywords ["IF", "EXISTS"] then pure " IF EXISTS" else pure ""
    let names ← commaSeparated objectName
    let found ← peek
    let cascade ← keyword "CASCADE"
    let restrict ← keyword "RESTRICT"
    let purge ← keyword "PURGE"
    if cascade && restrict then
      refuse "Cannot specify both CASCADE and RESTRICT in DROP" found.place
    if kind == "ROLE" && (cascade || restrict || purge) then
      refuse "Cannot specify CASCADE, RESTRICT, or PURGE in DROP ROLE" found.place
    return plain ("DROP " ++ (if temporary then "TEMPORARY " else "") ++ kind ++ condition ++ " "
      ++ listed (names.map Name.spelling) ++ (if cascade then " CASCADE" else "")
      ++ (if restrict then " RESTRICT" else "") ++ (if purge then " PURGE" else ""))

def truncate (g : Grammar) : Parser Statement := do
  let table ← keyword "TABLE"
  let only ← keyword "ONLY"
  let names ← commaSeparated objectName
  let partitions ←
    if ← keyword "PARTITION" then
      let es ← parenthesized (commaSeparated g.expr)
      pure (.text " PARTITION (" :: exprPieces es ++ text ")")
    else pure []
  let endings ←
    if ← isAny [.postgres, .generic] then
      let identity ← phrase [["RESTART", "IDENTITY"], ["CONTINUE", "IDENTITY"]]
      pure (identity ++ (← cascadeOrRestrict))
    else pure ""
  let cluster ← onCluster
  return .other (.text ("TRUNCATE " ++ (if table then "TABLE " else "")
    ++ (if only then "ONLY " else "") ++ listed (names.map Name.spelling) ++ endings) :: partitions
    ++ text cluster)

def comment : Parser Statement := do
  let condition ← ifExists
  expectKeyword "ON"
  let found ← next
  let kind := found.token.key
  if !(["COLUMN", "TABLE", "EXTENSION"].contains kind) then
    expected "comment object_type" found
  let name ← objectName
  expectKeyword "IS"
  let words ← if ← keyword "NULL" then pure "NULL" else pure ("'" ++ (← literalString) ++ "'")
  return plain ("COMMENT " ++ condition ++ "ON " ++ kind ++ " " ++ Name.spelling name ++ " IS "
    ++ words)

/-! ALTER -/

def columnPosition : Parser String := do
  if !(← isAny [.mysql, .generic]) then return ""
  if ← keyword "FIRST" then return " FIRST"
  if ← keyword "AFTER" then return " AFTER " ++ (← identifier).spelling
  return ""

def addProjection (g : Grammar) : Parser (List Piece) := do
  let condition ← ifNotExists
  let name ← identifier
  expectSymbol .lParen
  expectKeyword "SELECT"
  let items ← commaSeparated (selectItem g)
  let grouping ← groupClause g
  let order ← orderClause g
  let interpolate ← if order.isEmpty then pure [] else interpolations g
  expectSymbol .rParen
  return .text ("ADD PROJECTION " ++ condition ++ name.spelling ++ " (SELECT ")
    :: commaPieces (items.map itemPieces) ++ groupPieces grouping
    ++ (if order.isEmpty then [] else .text " ORDER BY " :: commaPieces (order.map orderPieces))
    ++ interpolate ++ text ")"

def partitionValues (g : Grammar) : Parser (List Piece) := do
  let values ← parenthesized (commaSeparated g.expr)
  return .text "PARTITION (" :: exprPieces values ++ text ")"

def addPartition (g : Grammar) : Parser (Option (List Piece)) := do
  if ← keyword "PARTITION" then some <$> partitionValues g else return none

def addOperation (g : Grammar) : Parser (List Piece) := do
  match ← tableConstraint g with
  | some pieces => return .text "ADD " :: pieces
  | none => pure ()
  if ← both (isAny [.generic]) (keyword "PROJECTION") then return ← addProjection g
  let early ← ifNotExists
  let partitions ← many (addPartition g)
  if !partitions.isEmpty then
    return .text ("ADD " ++ early) :: separatedBy " " partitions
  let column ← keyword "COLUMN"
  let condition ←
    if ← isAny [.postgres, .generic] then
      let late ← ifNotExists
      pure (if late.isEmpty then early else late)
    else pure ""
  let definition ← columnDefinition g
  let position ← columnPosition
  return .text ("ADD " ++ (if column then "COLUMN " else "") ++ condition) :: definition
    ++ text position

def renameOperation : Parser (List Piece) := do
  let renamed (opening : String) : Parser (List Piece) := do
    let old ← identifier
    expectKeyword "TO"
    return text (opening ++ old.spelling ++ " TO " ++ (← identifier).spelling)
  if ← both (isAny [.postgres]) (keyword "CONSTRAINT") then return ← renamed "RENAME CONSTRAINT "
  if ← keyword "TO" then return text ("RENAME TO " ++ Name.spelling (← objectName))
  let _ ← keyword "COLUMN"
  renamed "RENAME COLUMN "

def dropOperation (g : Grammar) : Parser (List Piece) := do
  let cascade : Parser String := return if ← keyword "CASCADE" then " CASCADE" else ""
  if ← keywords ["IF", "EXISTS", "PARTITION"] then
    return .text "DROP IF EXISTS " :: (← partitionValues g)
  if ← keyword "PARTITION" then return .text "DROP " :: (← partitionValues g)
  if ← keyword "CONSTRAINT" then
    let condition ← ifExists
    let name ← identifier
    return text ("DROP CONSTRAINT " ++ condition ++ name.spelling ++ (← cascade))
  if ← both (keywords ["PRIMARY", "KEY"]) (isAny [.mysql, .generic]) then
    return text "DROP PRIMARY KEY"
  if ← both (keyword "PROJECTION") (isAny [.generic]) then
    let condition ← ifExists
    return text ("DROP PROJECTION " ++ condition ++ (← identifier).spelling)
  let _ ← keyword "COLUMN"
  let condition ← ifExists
  let name ← identifier
  return text ("DROP COLUMN " ++ condition ++ name.spelling ++ (← cascade))

def changedColumn (g : Grammar) (opening : String) : Parser (List Piece) := do
  let type ← dataType g
  let options ← many (columnOption g)
  let position ← columnPosition
  return .text (opening ++ " ") :: type.pieces ++ options.flatMap (.text " " :: ·)
    ++ text position

def alterColumn (g : Grammar) : Parser (List Piece) := do
  let _ ← keyword "COLUMN"
  let name ← identifier
  let opening := "ALTER COLUMN " ++ name.spelling ++ " "
  let postgres ← isAny [.postgres]
  if ← keywords ["SET", "NOT", "NULL"] then return text (opening ++ "SET NOT NULL")
  if ← keywords ["DROP", "NOT", "NULL"] then return text (opening ++ "DROP NOT NULL")
  if ← keywords ["SET", "DEFAULT"] then return [.text (opening ++ "SET DEFAULT "), .expr (← g.expr)]
  if ← keywords ["DROP", "DEFAULT"] then return text (opening ++ "DROP DEFAULT")
  if ← either (keywords ["SET", "DATA", "TYPE"]) (both (pure postgres) (keyword "TYPE")) then
    let type ← dataType g
    let conversion ←
      if ← both (pure postgres) (keyword "USING") then pure [.text " USING ", .expr (← g.expr)]
      else pure []
    return .text (opening ++ "SET DATA TYPE ") :: type.pieces ++ conversion
  if ← keywords ["ADD", "GENERATED"] then
    let when ← phrase [["ALWAYS"], ["BY", "DEFAULT"]]
    expectKeywords ["AS", "IDENTITY"]
    let options ←
      if ← atSymbol .lParen then pure (" (" ++ (← parenthesized sequenceOptions) ++ " )")
      else pure ""
    return text (opening ++ "ADD GENERATED" ++ when ++ " AS IDENTITY" ++ options)
  expectedHere (if postgres then
    "SET/DROP NOT NULL, SET DEFAULT, SET DATA TYPE, or ADD GENERATED after ALTER COLUMN"
    else "SET/DROP NOT NULL, SET DEFAULT, or SET DATA TYPE after ALTER COLUMN")

def disableOperation : Parser (List Piece) := do
  if ← keywords ["ROW", "LEVEL", "SECURITY"] then return text "DISABLE ROW LEVEL SECURITY"
  match ← oneOf? ["RULE", "TRIGGER"] with
  | some key => return text ("DISABLE " ++ key ++ " " ++ (← identifier).spelling)
  | none => expectedHere "ROW LEVEL SECURITY, RULE, or TRIGGER after DISABLE"

def enableOperation : Parser (List Piece) := do
  if ← keywords ["ROW", "LEVEL", "SECURITY"] then return text "ENABLE ROW LEVEL SECURITY"
  match ← firstKeywords [["ALWAYS", "RULE"], ["ALWAYS", "TRIGGER"], ["REPLICA", "RULE"],
      ["REPLICA", "TRIGGER"], ["RULE"], ["TRIGGER"]] with
  | some keys =>
    return text ("ENABLE " ++ " ".intercalate keys ++ " " ++ (← identifier).spelling)
  | none =>
    expectedHere "ALWAYS, REPLICA, ROW LEVEL SECURITY, RULE, or TRIGGER after ENABLE"

def projectionOperation (verb : String) : Parser (List Piece) := do
  let condition ← ifExists
  let name ← identifier
  let partition ←
    if ← keywords ["IN", "PARTITION"] then pure (" IN PARTITION " ++ (← identifier).spelling)
    else pure ""
  return text (verb ++ " PROJECTION " ++ condition ++ name.spelling ++ partition)

def renamePartition (g : Grammar) : Parser (List Piece) := do
  let old ← partitionValues g
  expectKeyword "RENAME"
  expectKeywords ["TO", "PARTITION"]
  return old ++ .text " RENAME TO " :: (← partitionValues g)

def partOperation (g : Grammar) (verb : String) : Parser (List Piece) := do
  let kind ← expectOneOf ["PART", "PARTITION"]
  let part ← g.expr
  let name ←
    if ← both (pure (verb.endsWith "FREEZE")) (keyword "WITH") then
      expectKeyword "NAME"
      pure (" WITH NAME " ++ (← identifier).spelling)
    else pure ""
  return [.text (verb ++ " " ++ kind ++ " "), .expr part, .text name]

def otherOperation (g : Grammar) : Parser (List Piece) := do
  if ← both (isAny [.postgres, .generic]) (keywords ["OWNER", "TO"]) then
    return text ("OWNER TO " ++ (← owner))
  let part? ← if ← isAny [.generic] then oneOf? ["ATTACH", "DETACH", "FREEZE", "UNFREEZE"] else pure none
  match part? with
  | some verb => partOperation g verb
  | none =>
    let properties ← optionsAfterAll g ["SET", "TBLPROPERTIES"]
    if properties.isEmpty then
      expectedHere "ADD, RENAME, PARTITION, SWAP, DROP, or SET TBLPROPERTIES after ALTER TABLE"
    return around "SET TBLPROPERTIES(" properties

def tableOperation (g : Grammar) : Parser (List Piece) := do
  if ← keyword "ADD" then return ← addOperation g
  if ← keyword "RENAME" then return ← renameOperation
  if ← keyword "DISABLE" then return ← disableOperation
  if ← keyword "ENABLE" then return ← enableOperation
  if ← both (keywords ["CLEAR", "PROJECTION"]) (isAny [.generic]) then
    return ← projectionOperation "CLEAR"
  if ← both (keywords ["MATERIALIZE", "PROJECTION"]) (isAny [.generic]) then
    return ← projectionOperation "MATERIALIZE"
  match ← oneOf? ["DROP", "PARTITION", "CHANGE", "MODIFY", "ALTER", "SWAP"] with
  | some "DROP" => dropOperation g
  | some "PARTITION" => renamePartition g
  | some "CHANGE" =>
    let _ ← keyword "COLUMN"
    let old ← identifier
    let new ← identifier
    changedColumn g ("CHANGE COLUMN " ++ old.spelling ++ " " ++ new.spelling)
  | some "MODIFY" =>
    let _ ← keyword "COLUMN"
    changedColumn g ("MODIFY COLUMN " ++ (← identifier).spelling)
  | some "ALTER" => alterColumn g
  | some _ =>
    expectKeyword "WITH"
    return text ("SWAP WITH " ++ Name.spelling (← objectName))
  | none => otherOperation g

def newLocation : Parser String := do
  if ← keyword "LOCATION" then return " LOCATION " ++ (← identifier).spelling
  else if ← keywords ["SET", "LOCATION"] then return " SET LOCATION " ++ (← identifier).spelling
  else return ""

def alterTable (g : Grammar) : Parser Statement := do
  let condition ← ifExists
  let only ← keyword "ONLY"
  let name ← objectName
  let cluster ← onCluster
  let operations ← commaSeparated (tableOperation g)
  let location ← newLocation
  return .other (.text ("ALTER TABLE " ++ condition ++ (if only then "ONLY " else "")
    ++ Name.spelling name ++ cluster ++ " ") :: commaPieces operations ++ text location)

def alterIndex : Parser Statement := do
  let name ← objectName
  if !(← keyword "RENAME") then expectedHere "RENAME after ALTER INDEX"
  if !(← keyword "TO") then expectedHere "TO after RENAME"
  return plain ("ALTER INDEX " ++ Name.spelling name ++ " RENAME TO "
    ++ Name.spelling (← objectName))

def alterView (g : Grammar) : Parser Statement := do
  let name ← objectName
  let columns ← columnNames true
  let withOptions ← optionsAfter g "WITH"
  expectKeyword "AS"
  let q ← g.query
  return .other (.text ("ALTER VIEW " ++ Name.spelling name) :: around " WITH (" withOptions
    ++ [.text ((if columns.isEmpty then "" else " (" ++ namesText columns ++ ")") ++ " AS "),
      .query q])

def alter (g : Grammar) : Parser Statement := do
  match ← expectOneOf ["VIEW", "TABLE", "INDEX", "ROLE", "POLICY"] with
  | "VIEW" => alterView g
  | "TABLE" => alterTable g
  | "INDEX" => alterIndex
  | "ROLE" => alterRole g
  | _ => alterPolicy g

end RowFence.Sql.Parser
