import RowFence.Database.Reading.Change

/-! Readers of statements that make, change and drop the tables of a database and what belongs to
them. -/

namespace RowFence.Database.Reading

def ifNotExists : Reading Bool := words ["IF", "NOT", "EXISTS"]

def conflictClause : Reading Unit := do
  if ← words ["ON", "CONFLICT"] then needOneOf failureWords

def indexedNames : Reading (List String) := inParens <| commas do
  let column ← name
  if ← word "COLLATE" then
    let _ ← plainName
  let _ ← oneOf ["ASC", "DESC"]
  return column

def deferral : Reading Unit := do
  if ← word "INITIALLY" then needOneOf ["DEFERRED", "IMMEDIATE"]

def referenceAction : Reading (Option Unit) := do
  if ← word "MATCH" then
    let _ ← name
    return some ()
  if (← peekKey) == "ON" && (["INSERT", "DELETE", "UPDATE"].contains (← peekKeyAt 1)) then
    skip
    skip
    if ← word "SET" then needOneOf ["NULL", "DEFAULT"]
    else if !(← words ["NO", "ACTION"]) then needOneOf ["CASCADE", "RESTRICT"]
    return some ()
  return none

def references : Reading (List String) := do
  let _ ← name
  let columns ← if ← atSymbol "(" then indexedNames else pure []
  let _ ← many referenceAction
  return columns

def deferrable? : Reading (Option Unit) := do
  if ← word "DEFERRABLE" then
    deferral
    return some ()
  if ← words ["NOT", "DEFERRABLE"] then
    deferral
    return some ()
  return none

def defaultValue (g : Grammar) : Reading (List Expr) := do
  if ← symbol "(" then
    let e ← anyExpr g
    need ")"
    return [.operator [e]]
  if !(← symbol "+") then
    let _ ← symbol "-"
  match ← peek with
  | .integer _ | .constant | .string _ | .parameter =>
    skip
    return []
  | _ =>
    if (← word "NULL") || (← oneOf timeWords) then return []
    let _ ← plainName
    return []

def collations : List String := ["BINARY", "NOCASE", "RTRIM"]

def generated (g : Grammar) (c : ColumnDef) : Reading ColumnDef := do
  let e ← inParens (anyExpr g)
  let _ ← oneOf ["STORED", "VIRTUAL"]
  return { c with isGenerated := true, checks := c.checks ++ [e] }

def columnRule? (g : Grammar) (c : ColumnDef) : Reading (Option ColumnDef) := do
  match ← peekKey with
  | "CONSTRAINT" =>
    skip
    let _ ← name
    return some c
  | "DEFAULT" =>
    skip
    let value ← defaultValue g
    return some { c with default := c.default ++ value }
  | "NULL" =>
    skip
    conflictClause
    return some c
  | "NOT" =>
    if (← deferrable?).isSome then return some c
    skip
    needWord "NULL"
    conflictClause
    return some c
  | "PRIMARY" =>
    skip
    needWord "KEY"
    let _ ← oneOf ["ASC", "DESC"]
    conflictClause
    if c.isKey then fail
    return some { c with isKey := true, isAutoincrement := ← word "AUTOINCREMENT" }
  | "UNIQUE" =>
    skip
    conflictClause
    return some { c with isUnique := true }
  | "CHECK" =>
    skip
    let e ← inParens (anyExpr g)
    return some { c with checks := c.checks ++ [e] }
  | "REFERENCES" =>
    skip
    let others ← references
    if 1 < others.length then fail
    return some c
  | "DEFERRABLE" =>
    let _ ← deferrable?
    return some c
  | "COLLATE" =>
    skip
    if !collations.contains (upper (← plainName)) then fail
    return some c
  | "GENERATED" =>
    skip
    needWord "ALWAYS"
    needWord "AS"
    return some (← generated g c)
  | "AS" =>
    skip
    return some (← generated g c)
  | _ => return none

def columnRules (g : Grammar) : (bound : Nat) → ColumnDef → Reading ColumnDef
  | 0, c => return c
  | bound + 1, c => do
    match ← columnRule? g c with
    | some c => columnRules g bound c
    | none => return c

/-- The type of a column. Its words end where a rule for the column starts. -/
def columnType : Reading (List String) := do
  if (← peekKey) == "GENERATED" then return [] else typeName

def columnDef (g : Grammar) : Reading ColumnDef := do
  let name ← name
  let type ← columnType
  columnRules g (← get).length ⟨name, type, false, false, false, false, [], []⟩

def tableRule? (g : Grammar) : Reading (Option TableRule) := do
  if ← word "CONSTRAINT" then
    let _ ← name
  match ← peekKey with
  | "PRIMARY" =>
    skip
    needWord "KEY"
    let (columns, isAutoincrement) ← inParens do
      let columns ← orderKeys g
      return (columns, ← word "AUTOINCREMENT")
    conflictClause
    return some (.key columns isAutoincrement)
  | "UNIQUE" =>
    skip
    let columns ← inParens (orderKeys g)
    conflictClause
    return some (.unique columns)
  | "CHECK" =>
    skip
    let e ← inParens (anyExpr g)
    conflictClause
    return some (.check e)
  | "FOREIGN" =>
    skip
    needWord "KEY"
    let columns ← indexedNames
    needWord "REFERENCES"
    let others ← references
    let _ ← deferrable?
    return some (.foreign columns others)
  | _ => return none

def nextColumn? (g : Grammar) : Reading (Option ColumnDef) := do
  if !(← atSymbol ",") then return none
  if ["CONSTRAINT", "PRIMARY", "UNIQUE", "CHECK", "FOREIGN"].contains (← peekKeyAt 1) then
    return none
  skip
  some <$> columnDef g

/-- Rules for a table, with or without commas between them. -/
def tableRules (g : Grammar) : Reading (List TableRule) := do
  if !(← symbol ",") then return []
  let rules ← many do
    let comma ← symbol ","
    match ← tableRule? g with
    | some rule => return some rule
    | none => if comma then fail else return none
  if rules.isEmpty then fail
  return rules

def tableOption (d : TableDef) : Reading TableDef := do
  if ← word "WITHOUT" then
    if upper (← name) != "ROWID" then fail
    return { d with withoutRowNumber := true }
  if upper (← name) != "STRICT" then fail
  return { d with isStrict := true }

def tableOptions : (bound : Nat) → TableDef → Reading TableDef
  | 0, d => return d
  | bound + 1, d => do
    let d ← tableOption d
    if ← symbol "," then tableOptions bound d else return d

def isEnd : Token → Bool
  | .ending | .symbol ";" => true
  | _ => false

def tableBody (g : Grammar) : Reading TableBody := do
  if ← word "AS" then return .query (← g.query)
  need "("
  let first ← columnDef g
  let others ← many (nextColumn? g)
  let rules ← tableRules g
  need ")"
  let d : TableDef := ⟨first :: others, rules, false, false⟩
  if isEnd (← peek) then return .given d
  return .given (← tableOptions (← get).length d)

def createTable (g : Grammar) (temporary : Bool) : Reading Statement := do
  let ifNew ← ifNotExists
  let path ← path
  return .createTable temporary ifNew path (← tableBody g)

def createView (g : Grammar) (temporary : Bool) : Reading Statement := do
  let ifNew ← ifNotExists
  let path ← path
  let columns ← if ← atSymbol "(" then indexedNames else pure []
  needWord "AS"
  return .createView temporary ifNew path columns (← g.query)

def createIndex (g : Grammar) : Reading Statement := do
  let ifNew ← ifNotExists
  let path ← path
  needWord "ON"
  let table ← name
  let columns ← inParens (orderKeys g)
  return .createIndex ifNew path table columns (← conditionAfter g "WHERE")

def triggerEvent : Reading TriggerEvent := do
  if ← word "DELETE" then return .delete
  if ← word "INSERT" then return .insert
  needWord "UPDATE"
  if ← word "OF" then return .update (← commas name) else return .update []

def triggerStep? (g : Grammar) : Reading (Option Unit) := do
  if (← peekKey) == "END" then return none
  match ← queryOrChange g with
  | .change (.insert (_ :: _) ..) | .change (.update (_ :: _) ..)
  | .change (.delete (_ :: _) ..) => fail
  | _ => need ";"
  return some ()

def createTrigger (g : Grammar) (temporary : Bool) : Reading Statement := do
  let ifNew ← ifNotExists
  let trigger ← path
  let isInstead ← words ["INSTEAD", "OF"]
  if !isInstead then
    let _ ← oneOf ["BEFORE", "AFTER"]
  let event ← triggerEvent
  needWord "ON"
  let table ← path
  let _ ← words ["FOR", "EACH", "ROW"]
  let condition ← conditionAfter g "WHEN"
  needWord "BEGIN"
  if (← many (triggerStep? g)).isEmpty then fail
  needWord "END"
  return .createTrigger temporary ifNew trigger ⟨isInstead, event, table, condition⟩

/-- The tokens up to a comma or the closing parenthesis, outside of inner parentheses. -/
def moduleArgument : (bound depth : Nat) → Reading (List Token)
  | 0, _ => fail
  | bound + 1, depth => do
    let token ← peek
    match token, depth with
    | .ending, _ | .unknown, _ => fail
    | .symbol ",", 0 | .symbol ")", 0 => return []
    | _, _ =>
      skip
      let depth := match token with
        | .symbol "(" => depth + 1
        | .symbol ")" => depth - 1
        | _ => depth
      return token :: (← moduleArgument bound depth)

def textOf : Token → String
  | .word text | .quoted text _ | .string text | .symbol text => text
  | _ => ""

/-- A table whose rows a module keeps. Each argument gives its first word. -/
def createVirtual : Reading Statement := do
  needWord "TABLE"
  let ifNew ← ifNotExists
  let path ← path
  needWord "USING"
  let module ← name
  let arguments ←
    if ← atSymbol "(" then inParens (commas do moduleArgument (← get).length 0) else pure []
  return .createVirtual ifNew path module (arguments.map fun a => (a.head?.map textOf).getD "")

def create (g : Grammar) : Reading Statement := do
  if ← word "VIRTUAL" then return ← createVirtual
  if ← words ["UNIQUE", "INDEX"] then return ← createIndex g
  if ← word "INDEX" then return ← createIndex g
  let temporary ← oneOf ["TEMP", "TEMPORARY"]
  if ← word "TABLE" then return ← createTable g temporary
  if ← word "VIEW" then return ← createView g temporary
  needWord "TRIGGER"
  createTrigger g temporary

def drop : Reading Statement := do
  let kind ←
    if ← word "TABLE" then pure ObjectKind.table
    else
      if ← word "VIEW" then pure .view
      else
        if ← word "INDEX" then pure .index
        else
          needWord "TRIGGER"
          pure .trigger
  let ifThere ← words ["IF", "EXISTS"]
  return .drop kind ifThere (← path)

def alter (g : Grammar) : Reading Statement := do
  needWord "TABLE"
  let table ← path
  if ← word "ADD" then
    let _ ← word "COLUMN"
    return .alter table (.addColumn (← columnDef g))
  if ← word "DROP" then
    let _ ← word "COLUMN"
    return .alter table (.dropColumn (← name))
  needWord "RENAME"
  if ← word "TO" then return .alter table (.rename (← name))
  let _ ← word "COLUMN"
  let column ← name
  needWord "TO"
  return .alter table (.renameColumn column (← name))

end RowFence.Database.Reading
