import RowFence.Sql.Parser.Transaction

/-! GRANT and REVOKE, each after its keyword. -/

namespace RowFence.Sql.Parser

def privilege : Parser String := do
  match ← oneOf? ["CONNECT", "CREATE", "DELETE", "EXECUTE", "INSERT", "REFERENCES", "SELECT",
    "TEMPORARY", "TRIGGER", "TRUNCATE", "UPDATE", "USAGE"] with
  | none => expectedHere "a privilege keyword"
  | some key =>
    if ["INSERT", "REFERENCES", "SELECT", "UPDATE"].contains key then
      let columns ← columnNames true
      return if columns.isEmpty then key else key ++ " (" ++ namesText columns ++ ")"
    else return key

def privileges : Parser String := do
  if ← keyword "ALL" then
    return if ← keyword "PRIVILEGES" then "ALL PRIVILEGES" else "ALL"
  else return listed (← commaSeparated privilege)

def objectList : Parser String := do return listed ((← commaSeparated objectName).map Name.spelling)

def grantedObjects : Parser String := do
  if ← keywords ["ALL", "TABLES", "IN", "SCHEMA"] then
    return "ALL TABLES IN SCHEMA " ++ (← objectList)
  if ← keywords ["ALL", "SEQUENCES", "IN", "SCHEMA"] then
    return "ALL SEQUENCES IN SCHEMA " ++ (← objectList)
  match ← oneOf? ["SEQUENCE", "SCHEMA", "TABLE"] with
  | some "TABLE" | none => objectList
  | some kind => return kind ++ " " ++ (← objectList)

def rightsAndObjects : Parser String := do
  let rights ← privileges
  expectKeyword "ON"
  return rights ++ " ON " ++ (← grantedObjects)

def grantedBy : Parser String := do
  if ← keywords ["GRANTED", "BY"] then return " GRANTED BY " ++ (← identifier).spelling
  else return ""

def grant : Parser Statement := do
  let rights ← rightsAndObjects
  expectKeyword "TO"
  let grantees ← commaSeparated identifier
  let option ← keywords ["WITH", "GRANT", "OPTION"]
  return plain ("GRANT " ++ rights ++ " TO " ++ namesText grantees
    ++ (if option then " WITH GRANT OPTION" else "") ++ (← grantedBy))

def revoke : Parser Statement := do
  let rights ← rightsAndObjects
  expectKeyword "FROM"
  let grantees ← commaSeparated identifier
  let grantor ← grantedBy
  let found ← peek
  let cascade ← keyword "CASCADE"
  let restrict ← keyword "RESTRICT"
  if cascade && restrict then
    refuse "Cannot specify both CASCADE and RESTRICT in REVOKE" found.place
  return plain ("REVOKE " ++ rights ++ " FROM " ++ namesText grantees ++ grantor
    ++ (if cascade then " CASCADE" else " RESTRICT"))

end RowFence.Sql.Parser
