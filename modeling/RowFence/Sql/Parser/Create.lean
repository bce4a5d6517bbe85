import RowFence.Sql.Parser.Role
import RowFence.Sql.Parser.Routine
import RowFence.Sql.Parser.TableDefinition

/-! CREATE, after its keyword. -/

namespace RowFence.Sql.Parser

/-! Views, indexes and others -/

def viewColumn (g : Grammar) : Parser (List Piece) := do
  let name ← identifier
  if ← both (isAny [.generic]) (either (atKeyword "OPTIONS") (atKeyword "COMMENT")) then
    match ← columnOption g with
    | some option => return .text (name.spelling ++ " ") :: option
    | none => return text name.spelling
  else return text name.spelling

def viewColumns (g : Grammar) : Parser (List Piece) := do
  if !(← symbol .lParen) then return []
  if ← symbol .rParen then return []
  let columns ← commaSeparated (viewColumn g)
  expectSymbol .rParen
  return around " (" (commaPieces columns)

def createView (g : Grammar) (opening : String) (temporary : String) : Parser Statement := do
  let materialized ← keyword "MATERIALIZED"
  expectKeyword "VIEW"
  let condition ← if ← isAny [.sqlite, .generic] then ifNotExists else pure ""
  let name ← objectName
  let columns ← viewColumns g
  let withOptions ← optionsAfter g "WITH"
  let cluster ←
    if ← keyword "CLUSTER" then
      expectKeyword "BY"
      let columns ← columnNames true
      pure (if columns.isEmpty then "" else " CLUSTER BY (" ++ namesText columns ++ ")")
    else pure ""
  let generic ← isAny [.generic]
  let options ← if generic then optionsAfter g "OPTIONS" else pure []
  let target ←
    if ← both (pure generic) (keyword "TO") then pure (" TO " ++ Name.spelling (← objectName))
    else pure ""
  let comment ←
    if ← both (pure generic) (keyword "COMMENT") then
      expectSymbol .eq
      let found ← next
      match found.token with
      | .string .single s => pure (" COMMENT = " ++ Literal.single s)
      | _ => expected "string literal" found
    else pure ""
  expectKeyword "AS"
  let q ← g.query
  let unbound ←
    if ← both (pure generic) (keywords ["WITH", "NO", "SCHEMA", "BINDING"]) then
      pure (text " WITH NO SCHEMA BINDING")
    else pure []
  return .other (.text (opening ++ (if materialized then "MATERIALIZED " else "") ++ temporary
    ++ "VIEW " ++ condition ++ Name.spelling name ++ target ++ comment)
    :: (if options.isEmpty then around " WITH (" withOptions else []) ++ columns ++ text cluster
    ++ around " OPTIONS(" options ++ [.text " AS ", .query q] ++ unbound)

def createIndex (g : Grammar) (unique : Bool) : Parser Statement := do
  let concurrently ← keyword "CONCURRENTLY"
  let condition ← ifNotExists
  let name ←
    if ← both (pure condition.isEmpty) (keyword "ON") then pure ""
    else
      let name ← objectName
      expectKeyword "ON"
      pure (Name.spelling name ++ " ")
  let table ← objectName
  let method ← if ← keyword "USING" then pure (" USING " ++ (← identifier).spelling ++ " ") else pure ""
  let keys ← parenthesized (commaSeparated (orderKey g))
  let included ←
    if ← keyword "INCLUDE" then
      pure (" INCLUDE (" ++ ",".intercalate ((← parenthesizedNames).map Ident.spelling) ++ ")")
    else pure ""
  let nulls ← nullsDistinct
  let settings ←
    if ← both (isAny [.postgres, .generic]) (keyword "WITH") then
      let es ← parenthesized (commaSeparated g.expr)
      pure (.text " WITH (" :: exprPieces es ++ text ")")
    else pure []
  let filter ← whereClause g
  return .other (.text ("CREATE " ++ (if unique then "UNIQUE " else "") ++ "INDEX "
    ++ (if concurrently then "CONCURRENTLY " else "") ++ condition ++ name ++ "ON "
    ++ Name.spelling table ++ method ++ "(") :: separatedBy "," (keys.map orderPieces)
    ++ text (")" ++ included ++ nulls) ++ settings ++ filter)

def createVirtualTable : Parser Statement := do
  expectKeyword "TABLE"
  let condition ← ifNotExists
  let name ← objectName
  expectKeyword "USING"
  let method ← identifier
  let arguments ← columnNames true
  return plain ("CREATE VIRTUAL TABLE " ++ condition ++ Name.spelling name ++ " USING "
    ++ method.spelling ++ (if arguments.isEmpty then "" else " (" ++ namesText arguments ++ ")"))

def createSchema : Parser Statement := do
  let condition ← ifNotExists
  let opening := "CREATE SCHEMA " ++ condition
  if ← keyword "AUTHORIZATION" then
    return plain (opening ++ "AUTHORIZATION " ++ (← identifier).spelling)
  let name ← objectName
  if ← keyword "AUTHORIZATION" then
    return plain (opening ++ Name.spelling name ++ " AUTHORIZATION " ++ (← identifier).spelling)
  return plain (opening ++ Name.spelling name)

def createDatabase : Parser Statement := do
  let condition ← ifNotExists
  let name ← objectName
  let places ← many do
    match ← oneOf? ["LOCATION", "MANAGEDLOCATION"] with
    | some key => return some (key, " " ++ key ++ " '" ++ (← literalString) ++ "'")
    | none => return none
  let last (key : String) := ((places.filter (·.1 == key)).getLast?.map (·.2)).getD ""
  return plain ("CREATE DATABASE " ++ condition ++ Name.spelling name ++ last "LOCATION"
    ++ last "MANAGEDLOCATION")

def createExtension : Parser Statement := do
  let condition ← ifNotExists
  let name ← identifier
  let opening := "CREATE EXTENSION " ++ condition ++ name.spelling
  if !(← keyword "WITH") then return plain opening
  let schema ←
    if ← keyword "SCHEMA" then pure (" SCHEMA " ++ (← identifier).spelling) else pure ""
  let version ←
    if ← keyword "VERSION" then pure (" VERSION " ++ (← identifier).spelling) else pure ""
  let cascade ← if ← keyword "CASCADE" then pure " CASCADE" else pure ""
  let details := schema ++ version ++ cascade
  return plain (opening ++ (if details.isEmpty then "" else " WITH") ++ details)

def createSequence (g : Grammar) (temporary : String) : Parser Statement := do
  let condition ← ifNotExists
  let name ← objectName
  let type ← if ← keyword "AS" then pure (.text " AS " :: (← dataType g).pieces) else pure []
  let options ← sequenceOptions
  let owner ←
    if ← keywords ["OWNED", "BY"] then
      if ← keyword "NONE" then pure " OWNED BY NONE"
      else pure (" OWNED BY " ++ Name.spelling (← objectName))
    else pure ""
  return .other (.text ("CREATE " ++ temporary ++ "SEQUENCE " ++ condition ++ Name.spelling name)
    :: type ++ text (options ++ owner))

/-! Types -/

def enumName : Parser Name := do
  expectKeywords ["CREATE", "TYPE"]
  let name ← objectName
  expectKeywords ["AS", "ENUM"]
  return name

def createEnum? : Parser (Option Statement) := do
  match ← maybe? enumName with
  | none => return none
  | some name =>
    if !(← symbol .lParen) then expectedHere "'(' after CREATE TYPE AS ENUM"
    let labels ← commaSeparated0 identifier .rParen
    if !(← symbol .rParen) then expectedHere "')' after CREATE TYPE AS ENUM"
    return some (plain ("CREATE TYPE " ++ Name.spelling name ++ " AS ENUM (" ++ namesText labels
      ++ ")"))

/-- Members after the opening parenthesis; a comma may follow the last. -/
def typeMembers (g : Grammar) : (bound : Nat) → Parser (List (List Piece))
  | 0 => return []
  | bound + 1 => do
    let member ← identifier
    let type ← dataType g
    let collation ←
      if ← keyword "COLLATE" then pure (" COLLATE " ++ Name.spelling (← objectName)) else pure ""
    let pieces := .text (member.spelling ++ " ") :: type.pieces ++ text collation
    let comma ← symbol .comma
    if ← symbol .rParen then return [pieces]
    if !comma then expectedHere "',' or ')' after attribute definition"
    return pieces :: (← typeMembers g bound)

def createType (g : Grammar) : Parser Statement := do
  let name ← objectName
  expectKeyword "AS"
  let members ←
    if ← symbol .lParen then
      if ← symbol .rParen then pure [] else typeMembers g ((← read).tokens.size + 1)
    else pure []
  return .other (.text ("CREATE TYPE " ++ Name.spelling name ++ " AS (") :: commaPieces members
    ++ text ")")

/-! Secrets -/

def secretOption : Parser String := do
  let key ← identifier
  return key.spelling ++ " " ++ (← identifier).spelling

def createSecret (opening : String) : Parser Statement := do
  let condition ← ifNotExists
  let name ←
    if ← either (atSymbol .lParen) (atKeyword "IN") then pure ""
    else pure ((← identifier).spelling ++ " ")
  let place ← if ← keyword "IN" then pure ("IN " ++ (← identifier).spelling ++ " ") else pure ""
  expectSymbol .lParen
  expectKeyword "TYPE"
  let kind ← identifier
  let options ← if ← symbol .comma then commaSeparated secretOption else pure []
  expectSymbol .rParen
  return plain (opening ++ "SECRET " ++ condition ++ name ++ place ++ "( TYPE " ++ kind.spelling
    ++ String.join (options.map (", " ++ ·)) ++ " )")

def create (g : Grammar) : Parser Statement := do
  let orReplace ← keywords ["OR", "REPLACE"]
  let orAlter ← keywords ["OR", "ALTER"]
  let isLocal ← keyword "LOCAL"
  let isGlobal ← keyword "GLOBAL"
  let transient ← keyword "TRANSIENT"
  let isTemporary := (← oneOf? ["TEMP", "TEMPORARY"]).isSome
  let temporary := if isTemporary then "TEMPORARY " else ""
  let replacing := "CREATE " ++ (if orReplace then "OR REPLACE " else "")
  let scope := if isGlobal then "GLOBAL " else if isLocal then "LOCAL " else ""
  if ← keyword "TABLE" then
    return ← createTable g (replacing ++ scope ++ temporary
      ++ (if transient then "TRANSIENT " else ""))
  if ← either (atKeyword "MATERIALIZED") (atKeyword "VIEW") then
    return ← createView g replacing temporary
  if ← keyword "POLICY" then return ← createPolicy g
  if ← keyword "EXTERNAL" then return ← createExternalTable g replacing
  if ← keyword "FUNCTION" then return ← createFunction g (replacing ++ temporary)
  if ← keyword "TRIGGER" then return ← createTrigger g replacing
  if ← keywords ["CONSTRAINT", "TRIGGER"] then
    return ← createTrigger g (replacing ++ "CONSTRAINT ")
  if ← keyword "MACRO" then return ← createMacro g (replacing ++ temporary)
  if ← keyword "SECRET" then return ← createSecret (replacing ++ temporary)
  if orReplace then
    expectedHere "[EXTERNAL] TABLE or [MATERIALIZED] VIEW or FUNCTION after CREATE OR REPLACE"
  if ← keyword "EXTENSION" then return ← createExtension
  if ← keyword "INDEX" then return ← createIndex g false
  if ← keywords ["UNIQUE", "INDEX"] then return ← createIndex g true
  if ← keyword "VIRTUAL" then return ← createVirtualTable
  if ← keyword "SCHEMA" then return ← createSchema
  if ← keyword "DATABASE" then return ← createDatabase
  if ← keyword "ROLE" then return ← createRole
  if ← keyword "SEQUENCE" then return ← createSequence g temporary
  if ← keyword "TYPE" then return ← createType g
  if ← keyword "PROCEDURE" then return ← createProcedure g orAlter
  expectedHere "an object type after CREATE"

end RowFence.Sql.Parser
