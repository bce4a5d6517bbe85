import RowFence.Sql.Parser.Column

/-! New tables: columns, storage formats and the other clauses, after `CREATE TABLE`. -/

namespace RowFence.Sql.Parser

/-! Storage -/

def partitionColumns (g : Grammar) : Parser (List Piece) := do
  if !(← keywords ["PARTITIONED", "BY"]) then return []
  let columns ← parenthesized (commaSeparated (columnDefinition g))
  return around " PARTITIONED BY (" (commaPieces columns)

def buckets (g : Grammar) : Parser (List Piece) := do
  if !(← both (isAny [.generic]) (keywords ["CLUSTERED", "BY"])) then return []
  let columns ← columnNames false
  let sorting ←
    if ← keywords ["SORTED", "BY"] then
      let keys ← parenthesized (commaSeparated (orderKey g))
      pure (around " SORTED BY (" (commaPieces (keys.map orderPieces)))
    else pure []
  expectKeyword "INTO"
  let count ← numberValue
  expectKeyword "BUCKETS"
  return .text (" CLUSTERED BY (" ++ namesText columns ++ ")") :: sorting
    ++ text (" INTO " ++ count ++ " BUCKETS")

/-- A character that ends a part of a row; after a word that starts no delimiter there are none. -/
def rowDelimiter : Parser (Option String) := do
  let delimiter (opening : String) (keys : List String) : Parser (Option String) := do
    if ← keywords keys then
      let spelling := opening ++ " " ++ " ".intercalate keys
      return some (" " ++ spelling ++ " " ++ (← identifier).spelling)
    else return none
  match ← oneOf? ["FIELDS", "COLLECTION", "MAP", "LINES", "NULL"] with
  | some "FIELDS" =>
    match ← delimiter "FIELDS" ["TERMINATED", "BY"] with
    | some ended =>
      if ← keywords ["ESCAPED", "BY"] then
        return some (ended ++ " ESCAPED BY " ++ (← identifier).spelling)
      else return some ended
    | none => return none
  | some "COLLECTION" => delimiter "COLLECTION" ["ITEMS", "TERMINATED", "BY"]
  | some "MAP" => delimiter "MAP" ["KEYS", "TERMINATED", "BY"]
  | some "LINES" => delimiter "LINES" ["TERMINATED", "BY"]
  | some _ => delimiter "NULL" ["DEFINED", "AS"]
  | none => return none

def rowFormat : Parser String := do
  expectKeyword "FORMAT"
  match ← oneOf? ["SERDE", "DELIMITED"] with
  | some "SERDE" => return " ROW FORMAT SERDE '" ++ (← literalString) ++ "'"
  | _ => return " ROW FORMAT DELIMITED" ++ String.join (← many rowDelimiter)

structure Storage where
  rows : String := ""
  fileFormat : String := ""
  input : List Piece := []
  properties : List Piece := []
  location : String := ""

def storedAs (g : Grammar) (s : Storage) : Parser Storage := do
  expectKeyword "AS"
  if ← keyword "INPUTFORMAT" then
    let input ← g.expr
    expectKeyword "OUTPUTFORMAT"
    let output ← g.expr
    return { s with
      fileFormat := ""
      input := [.text " STORED AS INPUTFORMAT ", .expr input, .text " OUTPUTFORMAT ", .expr output] }
  else return { s with fileFormat := " STORED AS " ++ (← fileFormat), input := [] }

def storageFrom (g : Grammar) : (bound : Nat) → Storage → Parser Storage
  | 0, s => return s
  | bound + 1, s => do
    match ← oneOf? ["ROW", "STORED", "LOCATION", "WITH"] with
    | some "ROW" => storageFrom g bound { s with rows := ← rowFormat }
    | some "STORED" => storageFrom g bound (← storedAs g s)
    | some "LOCATION" =>
      storageFrom g bound { s with location := " LOCATION '" ++ (← literalString) ++ "'" }
    | some _ =>
      back
      let properties ← optionsAfterAll g ["WITH", "SERDEPROPERTIES"]
      if properties.isEmpty then return s
      storageFrom g bound { s with properties := around " WITH SERDEPROPERTIES (" properties }
    | none => return s

/-- The clauses in any order; of each kind the last counts. -/
def storage (g : Grammar) : Parser Storage := do storageFrom g ((← read).tokens.size + 1) {}

/-! The other clauses -/

def namedWord (wanted : String) : Parser String := do
  let found ← next
  match found.token with
  | .word w => return w.value
  | _ => expected wanted found

def engineClause : Parser String := do
  if !(← keyword "ENGINE") then return ""
  expectSymbol .eq
  let name ← namedWord "identifier"
  let parameters ←
    if ← atSymbol .lParen then pure (inParens (namesText (← parenthesizedNames))) else pure ""
  return " ENGINE=" ++ name ++ parameters

def autoIncrementClause : Parser String := do
  if !(← keyword "AUTO_INCREMENT") then return ""
  let _ ← symbol .eq
  return " AUTO_INCREMENT " ++ toString (← literalOfBits 32)

def tableOrder (g : Grammar) : Parser (List Piece) := do
  if !(← keywords ["ORDER", "BY"]) then return []
  if ← symbol .lParen then
    let keys ← commaSeparated0 g.expr .rParen
    expectSymbol .rParen
    return .text " ORDER BY (" :: exprPieces keys ++ text ")"
  else return [.text " ORDER BY ", .expr (← g.expr)]

def partitionAndCluster (g : Grammar) : Parser (List Piece) := do
  let partition ←
    if ← both (isAny [.postgres, .generic]) (keywords ["PARTITION", "BY"]) then
      pure [.text " PARTITION BY ", .expr (← g.expr)]
    else pure []
  if !(← isAny [.generic]) then return partition
  let cluster ←
    if ← keywords ["CLUSTER", "BY"] then
      pure (text (" CLUSTER BY " ++ namesText (← commaSeparated identifier)))
    else pure []
  let options ←
    if ← keyword "OPTIONS" then pure (.text " OPTIONS(" :: (← optionList g) ++ text ")")
    else pure []
  return partition ++ cluster ++ options

def wordClause (keys : List String) (spelling : String) : Parser String := do
  if !(← keywords keys) then return ""
  expectSymbol .eq
  return " " ++ spelling ++ "=" ++ (← namedWord "identifier")

def onCommit : Parser String := do
  match ← firstKeywords
      [["ON", "COMMIT", "DELETE", "ROWS"], ["ON", "COMMIT", "PRESERVE", "ROWS"],
        ["ON", "COMMIT", "DROP"]] with
  | some keys => return " " ++ " ".intercalate keys
  | none => return ""

def tableComment : Parser String := do
  if !(← keyword "COMMENT") then return ""
  let equals ← symbol .eq
  let found ← next
  match found.token with
  | .string .single s => return (if equals then " COMMENT = '" else " COMMENT '") ++ s ++ "'"
  | _ => expected "comment" found

def createTable (g : Grammar) (opening : String) : Parser Statement := do
  let condition ← ifNotExists
  let name ← objectName
  let cluster ← onCluster
  let like ← lenientName ["LIKE", "ILIKE"] " LIKE "
  let clone ← lenientName ["CLONE"] " CLONE "
  let body ← tableBody g
  let rowid ← if ← keywords ["WITHOUT", "ROWID"] then pure " WITHOUT ROWID" else pure ""
  let partitioned ← partitionColumns g
  let buckets ← buckets g
  let storage ← storage g
  let withOptions ← optionsAfter g "WITH"
  let properties ← optionsAfter g "TBLPROPERTIES"
  let engine ← engineClause
  let increment ← autoIncrementClause
  let primary ←
    if ← both (isAny [.generic]) (keywords ["PRIMARY", "KEY"]) then
      pure [.text " PRIMARY KEY ", .expr (← g.expr)]
    else pure []
  let order ← tableOrder g
  let partitions ← partitionAndCluster g
  let charset ← wordClause ["DEFAULT", "CHARSET"] "DEFAULT CHARSET"
  let collation ← wordClause ["COLLATE"] "COLLATE"
  let commit ← onCommit
  let strict ← if ← keyword "STRICT" then pure " STRICT" else pure ""
  let comment ← tableComment
  let query ← if ← keyword "AS" then pure [.text " AS ", .query (← g.query)] else pure []
  let body :=
    if body.isEmpty && query.isEmpty && like.isEmpty && clone.isEmpty then text " ()" else body
  return .other (.text (opening ++ "TABLE " ++ condition ++ Name.spelling name ++ cluster) :: body
    ++ text (rowid ++ like ++ clone) ++ partitioned ++ buckets
    ++ text (storage.rows ++ storage.fileFormat) ++ storage.input ++ storage.properties
    ++ text storage.location ++ around " TBLPROPERTIES (" properties
    ++ around " WITH (" withOptions ++ text (engine ++ comment ++ increment) ++ primary ++ order
    ++ partitions ++ text (charset ++ collation ++ commit ++ strict) ++ query)

def createExternalTable (g : Grammar) (opening : String) : Parser Statement := do
  expectKeyword "TABLE"
  let condition ← ifNotExists
  let name ← objectName
  let body ← tableBody g
  let partitioned ← partitionColumns g
  let storage ← storage g
  let properties ← optionsAfter g "TBLPROPERTIES"
  return .other (.text (opening ++ "EXTERNAL TABLE " ++ condition ++ Name.spelling name)
    :: (if body.isEmpty then text " ()" else body) ++ partitioned ++ text storage.rows
    ++ storage.input ++ storage.properties ++ text (storage.fileFormat ++ storage.location)
    ++ around " TBLPROPERTIES (" properties)

end RowFence.Sql.Parser
