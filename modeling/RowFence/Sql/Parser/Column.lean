import RowFence.Sql.Parser.Change
import RowFence.Sql.Parser.Transaction

/-! Columns and constraints, as they are defined for a table. -/

namespace RowFence.Sql.Parser

def ifNotExists : Parser String := do
  return if ← keywords ["IF", "NOT", "EXISTS"] then "IF NOT EXISTS " else ""

def ifExists : Parser String := do return if ← keywords ["IF", "EXISTS"] then "IF EXISTS " else ""

def onCluster : Parser String := do
  if ← keywords ["ON", "CLUSTER"] then return " ON CLUSTER " ++ (← identifier).spelling
  else return ""

def cascadeOrRestrict : Parser String := do
  return ((← oneOf? ["CASCADE", "RESTRICT"]).map (" " ++ ·)).getD ""

/-- A name after one of the keywords; tokens that are no name are passed over. -/
def lenientName (keys : List String) (spelling : String) : Parser String := do
  if (← oneOf? keys).isNone then return ""
  match ← lenient? objectName with
  | some name => return spelling ++ Name.spelling name
  | none => return ""

/-! Constraints -/

def referentialAction : Parser String := do
  if ← keyword "RESTRICT" then return "RESTRICT"
  if ← keyword "CASCADE" then return "CASCADE"
  if ← keywords ["SET", "NULL"] then return "SET NULL"
  if ← keywords ["NO", "ACTION"] then return "NO ACTION"
  if ← keywords ["SET", "DEFAULT"] then return "SET DEFAULT"
  expectedHere "one of RESTRICT, CASCADE, SET NULL, NO ACTION or SET DEFAULT"

/-- What happens to a row when the row that it refers to is deleted or changed, each once at most. -/
def referentialActions : (bound : Nat) → (onDelete onUpdate : String) → Parser String
  | 0, onDelete, onUpdate => return onDelete ++ onUpdate
  | bound + 1, onDelete, onUpdate => do
    if ← both (pure onDelete.isEmpty) (keywords ["ON", "DELETE"]) then
      referentialActions bound (" ON DELETE " ++ (← referentialAction)) onUpdate
    else if ← both (pure onUpdate.isEmpty) (keywords ["ON", "UPDATE"]) then
      referentialActions bound onDelete (" ON UPDATE " ++ (← referentialAction))
    else return onDelete ++ onUpdate

structure Characteristics where
  deferrable : Option String := none
  initially : Option String := none
  enforced : Option String := none
  deriving DecidableEq, Repr

def characteristic (c : Characteristics) : Parser (Option Characteristics) := do
  if ← both (pure c.deferrable.isNone) (keywords ["NOT", "DEFERRABLE"]) then
    return some { c with deferrable := some "NOT DEFERRABLE" }
  if ← both (pure c.deferrable.isNone) (keyword "DEFERRABLE") then
    return some { c with deferrable := some "DEFERRABLE" }
  if ← both (pure c.initially.isNone) (keyword "INITIALLY") then
    match ← oneOf? ["DEFERRED", "IMMEDIATE"] with
    | some key => return some { c with initially := some ("INITIALLY " ++ key) }
    | none => expectedHere "one of DEFERRED or IMMEDIATE"
  if ← both (pure c.enforced.isNone) (keyword "ENFORCED") then
    return some { c with enforced := some "ENFORCED" }
  if ← both (pure c.enforced.isNone) (keywords ["NOT", "ENFORCED"]) then
    return some { c with enforced := some "NOT ENFORCED" }
  return none

def characteristicsFrom : (bound : Nat) → Characteristics → Parser Characteristics
  | 0, c => return c
  | bound + 1, c => do
    match ← characteristic c with
    | some c => characteristicsFrom bound c
    | none => return c

def characteristics : Parser String := do
  let c ← characteristicsFrom 4 {}
  let parts := [c.deferrable, c.initially, c.enforced].filterMap id
  return String.join (parts.map (" " ++ ·))

def indexName : Parser String := do
  return ((← maybe? identifier).map fun i => " " ++ i.spelling).getD ""

def indexType : Parser String := do
  if ← keyword "USING" then
    match ← oneOf? ["BTREE", "HASH"] with
    | some key => return " USING " ++ key
    | none => expectedHere "index type \x7bBTREE | HASH\x7d"
  else return ""

def indexOption : Parser (Option String) := do
  if ← keyword "USING" then
    match ← oneOf? ["BTREE", "HASH"] with
    | some key => return some (" USING " ++ key)
    | none => expectedHere "index type \x7bBTREE | HASH\x7d"
  if ← keyword "COMMENT" then return some (" COMMENT '" ++ (← literalString) ++ "'")
  return none

def indexOptions : Parser String := do return String.join (← many indexOption)

def keyOrIndex : Parser String := do
  return ((← oneOf? ["KEY", "INDEX"]).map (" " ++ ·)).getD ""

def nullsDistinct : Parser String := do
  if ← keyword "NULLS" then
    let not ← keyword "NOT"
    expectKeyword "DISTINCT"
    return if not then " NULLS NOT DISTINCT" else " NULLS DISTINCT"
  else return ""

def columnsInParens : Parser String := do return " (" ++ namesText (← columnNames false) ++ ")"

def keyConstraint (opening : String) : Parser (List Piece) := do
  let name ← indexName
  let type ← indexType
  let columns ← columnsInParens
  let options ← indexOptions
  return text (opening ++ name ++ type ++ columns ++ options ++ (← characteristics))

def references : Parser String := do
  let table ← objectName
  let columns ← columnNames true
  let columnText := if columns.isEmpty then "" else " (" ++ namesText columns ++ ")"
  let actions ← referentialActions 3 "" ""
  return "REFERENCES " ++ Name.spelling table ++ columnText ++ actions ++ (← characteristics)

def foreignKey : Parser (List Piece) := do
  expectKeyword "KEY"
  let columns ← columnsInParens
  expectKeyword "REFERENCES"
  let table ← objectName
  let referred ← namesText <$> columnNames false
  let actions ← referentialActions 3 "" ""
  return text ("FOREIGN KEY" ++ columns ++ " REFERENCES " ++ Name.spelling table ++ inParens referred
    ++ actions ++ (← characteristics))

def check (g : Grammar) : Parser (List Piece) := do
  let e ← parenthesized g.expr
  return [.text "CHECK (", .expr e, .text ")"]

def tableConstraint (g : Grammar) : Parser (Option (List Piece)) := do
  let name? ← if ← keyword "CONSTRAINT" then some <$> identifier else pure none
  let named (pieces : List Piece) : List Piece :=
    match name? with
    | some i => .text ("CONSTRAINT " ++ i.spelling ++ " ") :: pieces
    | none => pieces
  let indexed ← isAny [.mysql, .generic]
  let found ← next
  match found.token.key with
  | "UNIQUE" =>
    let kind ← keyOrIndex
    if !indexed && !kind.isEmpty then expectedHere "`index_name` or `(column_name [, ...])`"
    return some (named (← keyConstraint ("UNIQUE" ++ kind)))
  | "PRIMARY" =>
    expectKeyword "KEY"
    return some (named (← keyConstraint "PRIMARY KEY"))
  | "FOREIGN" => return some (named (← foreignKey))
  | "CHECK" => return some (named (← check g))
  | key =>
    if (key == "INDEX" || key == "KEY") && indexed && name?.isNone then
      let name ← if ← atKeyword "USING" then pure "" else indexName
      let type ← indexType
      return some (text (key ++ name ++ type ++ (← columnsInParens)))
    if (key == "FULLTEXT" || key == "SPATIAL") && indexed then
      match name? with
      | some i => refuse ("Expected: FULLTEXT or SPATIAL option without constraint name, found: "
          ++ i.spelling) found.place
      | none =>
        let kind ← keyOrIndex
        let name ← indexName
        return some (text (key ++ kind ++ name ++ (← columnsInParens)))
    if name?.isSome then expected "PRIMARY, UNIQUE, FOREIGN, or CHECK" found
    back
    return none

/-! Options -/

def partitionOption (g : Grammar) : Parser (List Piece) := do
  expectKeyword "PARTITION"
  expectSymbol .lParen
  let column ← identifier
  expectKeyword "RANGE"
  let side := ((← oneOf? ["LEFT", "RIGHT"]).map (" " ++ ·)).getD ""
  expectKeywords ["FOR", "VALUES"]
  let values ← parenthesized (commaSeparated g.expr)
  expectSymbol .rParen
  return .text ("PARTITION (" ++ column.spelling ++ " RANGE" ++ side ++ " FOR VALUES (")
    :: exprPieces values ++ text "))"

def orderedColumn : Parser String := do
  let name ← identifier
  return name.spelling ++ ((← oneOf? ["ASC", "DESC"]).map (" " ++ ·)).getD ""

def clusteredOption : Parser (List Piece) := do
  if ← keywords ["CLUSTERED", "COLUMNSTORE", "INDEX", "ORDER"] then
    return text ("CLUSTERED COLUMNSTORE INDEX ORDER (" ++ namesText (← columnNames false) ++ ")")
  if ← keywords ["CLUSTERED", "COLUMNSTORE", "INDEX"] then
    return text "CLUSTERED COLUMNSTORE INDEX"
  if ← keywords ["CLUSTERED", "INDEX"] then
    let columns ← parenthesized (commaSeparated orderedColumn)
    return text ("CLUSTERED INDEX (" ++ listed columns ++ ")")
  refuse "invalid CLUSTERED sequence" .ending

def tableOption (g : Grammar) : Parser (List Piece) := do
  let key ← if ← isAny [.generic] then peekKey else pure ""
  match key with
  | "HEAP" => return text (← identifier).spelling
  | "PARTITION" => partitionOption g
  | "CLUSTERED" => clusteredOption
  | _ =>
    let name ← identifier
    expectSymbol .eq
    return [.text (name.spelling ++ " = "), .expr (← g.expr)]

def optionList (g : Grammar) : Parser (List Piece) := do
  return commaPieces (← parenthesized (commaSeparated0 (tableOption g) .rParen))

def optionsAfter (g : Grammar) (key : String) : Parser (List Piece) := do
  if ← keyword key then optionList g else return []

def optionsAfterAll (g : Grammar) (keys : List String) : Parser (List Piece) := do
  if ← keywords keys then return commaPieces (← parenthesized (commaSeparated (tableOption g)))
  else return []

def around (opening : String) (pieces : List Piece) : List Piece :=
  if pieces.isEmpty then [] else .text opening :: pieces ++ text ")"

/-! Columns -/

def sequenceOptions : Parser String := do
  let increment ←
    if ← keyword "INCREMENT" then
      let opening := if ← keyword "BY" then " INCREMENT BY " else " INCREMENT "
      pure (opening ++ (← signedNumber))
    else pure ""
  let bound (key : String) : Parser String := do
    if ← keyword key then return " " ++ key ++ " " ++ (← signedNumber)
    else if ← keywords ["NO", key] then return " NO " ++ key
    else return ""
  let least ← bound "MINVALUE"
  let greatest ← bound "MAXVALUE"
  let start ←
    if ← keyword "START" then
      let opening := if ← keyword "WITH" then " START WITH " else " START "
      pure (opening ++ (← signedNumber))
    else pure ""
  let cache ← if ← keyword "CACHE" then pure (" CACHE " ++ (← signedNumber)) else pure ""
  let cycle ← phrase [["NO", "CYCLE"], ["CYCLE"]]
  return increment ++ least ++ greatest ++ start ++ cache ++ cycle

def identityColumn (when : String) : Parser (List Piece) := do
  let options ←
    if ← symbol .lParen then
      let options ← sequenceOptions
      expectSymbol .rParen
      pure (if options.isEmpty then "" else " (" ++ options ++ " )")
    else pure ""
  return text ("GENERATED " ++ when ++ " AS IDENTITY" ++ options)

def generatedColumn (g : Grammar) : Parser (Option (List Piece)) := do
  if ← keywords ["ALWAYS", "AS", "IDENTITY"] then return some (← identityColumn "ALWAYS")
  if ← keywords ["BY", "DEFAULT", "AS", "IDENTITY"] then
    return some (← identityColumn "BY DEFAULT")
  if ← both (keywords ["ALWAYS", "AS"]) (symbol .lParen) then
    let e ← g.expr
    expectSymbol .rParen
    let mode ←
      if ← isAny [.postgres] then
        expectKeyword "STORED"
        pure " STORED"
      else phrase [["STORED"], ["VIRTUAL"]]
    return some [.text "GENERATED ALWAYS AS (", .expr e, .text (")" ++ mode)]
  else return none

def computedColumn (g : Grammar) : Parser (Option (List Piece)) := do
  let e ← parenthesized g.expr
  let mode ← phrase [["STORED"], ["VIRTUAL"]]
  return some [.text "AS (", .expr e, .text (")" ++ mode)]

def columnOption (g : Grammar) : Parser (Option (List Piece)) := do
  let exprAfter (opening : String) : Parser (Option (List Piece)) := do
    return some [.text opening, .expr (← g.expr)]
  if ← keywords ["CHARACTER", "SET"] then
    return some (text ("CHARACTER SET " ++ Name.spelling (← objectName)))
  if ← keywords ["NOT", "NULL"] then return some (text "NOT NULL")
  if ← keyword "COMMENT" then
    let found ← next
    match found.token with
    | .string .single s => return some (text ("COMMENT " ++ Literal.single s))
    | _ => expected "string" found
  if ← keyword "NULL" then return some (text "NULL")
  if ← keyword "DEFAULT" then return ← exprAfter "DEFAULT "
  if ← both (isAny [.generic]) (keyword "MATERIALIZED") then return ← exprAfter "MATERIALIZED "
  if ← both (isAny [.generic]) (keyword "ALIAS") then return ← exprAfter "ALIAS "
  if ← both (isAny [.generic]) (keyword "EPHEMERAL") then
    if ← either (atSymbol .comma) (atSymbol .rParen) then return some (text "EPHEMERAL")
    return ← exprAfter "EPHEMERAL "
  if ← keywords ["PRIMARY", "KEY"] then
    return some (text ("PRIMARY KEY" ++ (← characteristics)))
  if ← keyword "UNIQUE" then return some (text ("UNIQUE" ++ (← characteristics)))
  if ← keyword "REFERENCES" then return some (text (← references))
  if ← keyword "CHECK" then return some (← check g)
  if ← both (keyword "AUTO_INCREMENT") (isAny [.mysql, .generic]) then
    return some (text "AUTO_INCREMENT")
  if ← both (keyword "AUTOINCREMENT") (isAny [.sqlite, .generic]) then
    return some (text "AUTOINCREMENT")
  if ← both (keyword "ASC") (isAny [.sqlite, .generic]) then return some (text "ASC")
  if ← both (keyword "DESC") (isAny [.sqlite, .generic]) then return some (text "DESC")
  if ← both (keywords ["ON", "UPDATE"]) (isAny [.mysql, .generic]) then
    return ← exprAfter "ON UPDATE "
  if ← keyword "GENERATED" then return ← generatedColumn g
  if ← both (isAny [.generic]) (keyword "OPTIONS") then
    return some (.text "OPTIONS(" :: (← optionList g) ++ text ")")
  if ← both (keyword "AS") (isAny [.mysql, .sqlite, .generic]) then return ← computedColumn g
  if ← both (keyword "IDENTITY") (isAny [.generic]) then
    if ← symbol .lParen then
      let seed ← signedNumber
      expectSymbol .comma
      let increment ← signedNumber
      expectSymbol .rParen
      return some (text ("IDENTITY(" ++ seed ++ ", " ++ increment ++ ")"))
    return some (text "IDENTITY")
  if ← both (isAny [.sqlite, .generic]) (keywords ["ON", "CONFLICT"]) then
    return some (text ("ON CONFLICT "
      ++ (← expectOneOf ["ROLLBACK", "ABORT", "FAIL", "IGNORE", "REPLACE"])))
  return none

def typelessStops : List String :=
  ["CONSTRAINT", "PRIMARY", "NOT", "UNIQUE", "CHECK", "DEFAULT", "COLLATE", "REFERENCES",
    "GENERATED", "AS"]

def columnType (g : Grammar) : Parser (List Piece) := do
  if ← isAny [.sqlite] then
    match ← peekToken with
    | .word w => if typelessStops.contains w.key then return []
    | _ => return []
  return .text " " :: (← dataType g).pieces

def columnPart (g : Grammar) : Parser (Option (String × List Piece)) := do
  if ← keyword "CONSTRAINT" then
    let name ← identifier
    match ← columnOption g with
    | some pieces => return some ("", .text (" CONSTRAINT " ++ name.spelling ++ " ") :: pieces)
    | none => expectedHere "constraint details after CONSTRAINT <name>"
  match ← columnOption g with
  | some pieces => return some ("", .text " " :: pieces)
  | none =>
    if ← both (isAny [.mysql, .generic]) (keyword "COLLATE") then
      return some (" COLLATE " ++ Name.spelling (← objectName), [])
    else return none

def columnDefinition (g : Grammar) : Parser (List Piece) := do
  let name ← identifier
  let type ← columnType g
  let collation ←
    if ← keyword "COLLATE" then pure (" COLLATE " ++ Name.spelling (← objectName)) else pure ""
  let parts ← many (columnPart g)
  let collation := (((parts.map (·.1)).filter (· != "")).getLast?).getD collation
  return .text name.spelling :: type ++ .text collation :: (parts.map (·.2)).flatten

/-- A column, or a constraint of the whole table; both in order, columns marked. -/
def tablePart (g : Grammar) : Parser (Bool × List Piece) := do
  match ← tableConstraint g with
  | some pieces => return (false, pieces)
  | none =>
    match ← peekToken with
    | .word _ => return (true, ← columnDefinition g)
    | _ => expectedHere "column name or constraint definition"

def tableParts (g : Grammar) : (bound : Nat) → Parser (List (Bool × List Piece))
  | 0 => return []
  | bound + 1 => do
    let part ← tablePart g
    let comma ← symbol .comma
    let closing ← atSymbol .rParen
    if !comma && !closing then expectedHere "',' or ')' after column definition"
    if closing && !comma then
      skip
      return [part]
    else return part :: (← tableParts g bound)

def tableBody (g : Grammar) : Parser (List Piece) := do
  if !(← symbol .lParen) then return []
  if ← symbol .rParen then return []
  let parts ← tableParts g ((← read).tokens.size + 1)
  let (columns, constraints) := parts.partition (·.1)
  return .text " (" :: commaPieces ((columns ++ constraints).map (·.2)) ++ text ")"

end RowFence.Sql.Parser
