import RowFence.Sql.Parser.Names

/-! Transactions, cursors and prepared statements as far as they hold no query. Each statement is
read after its first keyword. -/

namespace RowFence.Sql.Parser

def plain (s : String) : Statement := .other (text s)

def isolationLevel : Parser String := do
  if ← keywords ["READ", "UNCOMMITTED"] then return "READ UNCOMMITTED"
  if ← keywords ["READ", "COMMITTED"] then return "READ COMMITTED"
  if ← keywords ["REPEATABLE", "READ"] then return "REPEATABLE READ"
  if ← keyword "SERIALIZABLE" then return "SERIALIZABLE"
  expectedHere "isolation level"

/-- The mode of a transaction that comes next; after a comma there has to be one. -/
def transactionMode (required : Bool) : Parser (Option String) := do
  if ← keywords ["ISOLATION", "LEVEL"] then
    return some ("ISOLATION LEVEL " ++ (← isolationLevel))
  if ← keywords ["READ", "ONLY"] then return some "READ ONLY"
  if ← keywords ["READ", "WRITE"] then return some "READ WRITE"
  if required then expectedHere "transaction mode"
  return none

def transactionModesAfter (required : Bool) : (bound : Nat) → Parser (List String)
  | 0 => return []
  | bound + 1 => do
    match ← transactionMode required with
    | none => return []
    | some mode =>
      let comma ← symbol .comma
      return mode :: (← transactionModesAfter comma bound)

def transactionModes : Parser String := do
  let modes ← transactionModesAfter false ((← read).tokens.size + 1)
  return if modes.isEmpty then "" else " " ++ listed modes

def startTransaction : Parser Statement := do
  expectKeyword "TRANSACTION"
  return plain ("START TRANSACTION" ++ (← transactionModes))

def begin : Parser Statement := do
  let modifier ←
    if ← isAny [.sqlite, .generic] then oneOf? ["DEFERRED", "IMMEDIATE", "EXCLUSIVE"]
    else pure none
  let _ ← oneOf? ["TRANSACTION", "WORK"]
  let modifier := (modifier.map (" " ++ ·)).getD ""
  return plain ("BEGIN" ++ modifier ++ " TRANSACTION" ++ (← transactionModes))

def chainClause : Parser String := do
  let _ ← oneOf? ["TRANSACTION", "WORK"]
  if ← keyword "AND" then
    let none_ ← keyword "NO"
    expectKeyword "CHAIN"
    return if none_ then "" else " AND CHAIN"
  else return ""

def commit : Parser Statement := do return plain ("COMMIT" ++ (← chainClause))

def rollback : Parser Statement := do
  let chain ← chainClause
  if ← keyword "TO" then
    let _ ← keyword "SAVEPOINT"
    return plain ("ROLLBACK" ++ chain ++ " TO SAVEPOINT " ++ (← identifier).spelling)
  else return plain ("ROLLBACK" ++ chain)

def savepoint : Parser Statement := do return plain ("SAVEPOINT " ++ (← identifier).spelling)

def release : Parser Statement := do
  let _ ← keyword "SAVEPOINT"
  return plain ("RELEASE SAVEPOINT " ++ (← identifier).spelling)

def fetchDirection : Parser String := do
  let counted (key : String) : Parser String := return key ++ " " ++ (← numberValue)
  let countedOrAll (key : String) : Parser String := do
    if ← keyword "ALL" then return key ++ " ALL" else counted key
  match ← oneOf? ["NEXT", "PRIOR", "FIRST", "LAST", "ABSOLUTE", "RELATIVE", "FORWARD", "BACKWARD",
    "ALL"] with
  | some "ABSOLUTE" => counted "ABSOLUTE"
  | some "RELATIVE" => counted "RELATIVE"
  | some "FORWARD" => countedOrAll "FORWARD"
  | some "BACKWARD" => countedOrAll "BACKWARD"
  | some key => return key
  | none => numberValue

def fetch : Parser Statement := do
  let direction ← fetchDirection
  let _ ← expectOneOf ["FROM", "IN"]
  let name ← identifier
  let target ← if ← keyword "INTO" then pure (" INTO " ++ Name.spelling (← objectName)) else pure ""
  return plain ("FETCH " ++ direction ++ " IN " ++ name.spelling ++ target)

def close : Parser Statement := do
  if ← keyword "ALL" then return plain "CLOSE ALL"
  else return plain ("CLOSE " ++ (← identifier).spelling)

def deallocate : Parser Statement := do
  let prepare ← keyword "PREPARE"
  return plain ("DEALLOCATE " ++ (if prepare then "PREPARE " else "") ++ (← identifier).spelling)

def discard : Parser Statement := do
  match ← oneOf? ["ALL", "PLANS", "SEQUENCES", "TEMP", "TEMPORARY"] with
  | some "TEMPORARY" => return plain "DISCARD TEMP"
  | some key => return plain ("DISCARD " ++ key)
  | none => expectedHere "ALL, PLANS, SEQUENCES, TEMP or TEMPORARY after DISCARD"

end RowFence.Sql.Parser
