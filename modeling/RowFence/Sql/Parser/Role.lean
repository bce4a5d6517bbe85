import RowFence.Sql.Parser.Column

/-! Roles, and policies on the rows that they see, each after its keyword. -/

namespace RowFence.Sql.Parser

def owner : Parser String := do
  match ← oneOf? ["CURRENT_USER", "CURRENT_ROLE", "SESSION_USER"] with
  | some key => return key
  | none =>
    tryCatch (Ident.spelling <$> identifier) fun e =>
      refuse ("Expected: CURRENT_USER, CURRENT_ROLE, SESSION_USER or identifier after OWNER TO. "
        ++ e.message) .ending

/-! Policies -/

def policyRule (g : Grammar) : Parser (List Piece) := do
  let owners ←
    if ← keyword "TO" then pure (" TO " ++ listed (← commaSeparated owner)) else pure ""
  let condition (opening : String) : Parser (List Piece) := do
    return [.text (opening ++ " ("), .expr (← parenthesized g.expr), .text ")"]
  let visible ← if ← keyword "USING" then condition " USING" else pure []
  let checked ← if ← keywords ["WITH", "CHECK"] then condition " WITH CHECK" else pure []
  return .text owners :: visible ++ checked

def policyName : Parser String := do
  let name ← identifier
  expectKeyword "ON"
  return name.spelling ++ " ON " ++ Name.spelling (← objectName)

def createPolicy (g : Grammar) : Parser Statement := do
  let name ← policyName
  let kind ←
    if ← keyword "AS" then pure (" AS " ++ (← expectOneOf ["PERMISSIVE", "RESTRICTIVE"]))
    else pure ""
  let command ←
    if ← keyword "FOR" then
      pure (" FOR " ++ (← expectOneOf ["ALL", "SELECT", "INSERT", "UPDATE", "DELETE"]))
    else pure ""
  return .other (.text ("CREATE POLICY " ++ name ++ kind ++ command) :: (← policyRule g))

def alterPolicy (g : Grammar) : Parser Statement := do
  let name ← policyName
  if ← keyword "RENAME" then
    expectKeyword "TO"
    return plain ("ALTER POLICY " ++ name ++ " RENAME TO " ++ (← identifier).spelling)
  else return .other (.text ("ALTER POLICY " ++ name) :: (← policyRule g))

def dropPolicy : Parser Statement := do
  let condition ← ifExists
  let name ← policyName
  return plain ("DROP POLICY " ++ condition ++ name ++ (← cascadeOrRestrict))

/-! Roles -/

def roleFlags : List String :=
  ["SUPERUSER", "CREATEDB", "CREATEROLE", "INHERIT", "LOGIN", "REPLICATION", "BYPASSRLS"]

def roleFlagWords : List String := roleFlags ++ roleFlags.map ("NO" ++ ·)

def rolePassword : Parser String := do
  if ← keyword "NULL" then return " PASSWORD NULL" else return " PASSWORD " ++ (← value)

/-- A property of a new role next in the text: what it settles, and its spelling. -/
def roleProperty (given : List (String × String)) : Parser (Option (String × String)) := do
  if !(← isAny [.postgres]) then return none
  let place := (← peek).place
  let once (property title : String) (p : Parser String) : Parser (Option (String × String)) := do
    if given.any (·.1 == property) then refuse ("Found multiple " ++ title) place
    return some (property, ← p)
  let names (property : String) : Parser (Option (String × String)) :=
    once property property do
      return " " ++ property ++ " " ++ namesText (← commaSeparated identifier)
  match ← oneOf? (roleFlagWords ++ ["PASSWORD", "CONNECTION", "VALID", "IN", "ROLE", "ADMIN", "USER"])
  with
  | none => return none
  | some "PASSWORD" => once "PASSWORD" "PASSWORD" rolePassword
  | some "CONNECTION" =>
    expectKeyword "LIMIT"
    once "CONNECTION LIMIT" "CONNECTION LIMIT" do return " CONNECTION LIMIT " ++ (← numberValue)
  | some "VALID" =>
    expectKeyword "UNTIL"
    once "VALID UNTIL" "VALID UNTIL" do return " VALID UNTIL " ++ (← value)
  | some "IN" =>
    if ← keyword "ROLE" then names "IN ROLE"
    else if ← keyword "GROUP" then names "IN GROUP"
    else expectedHere "ROLE or GROUP after IN"
  | some key =>
    match roleFlags.find? fun flag => key == flag || key == "NO" ++ flag with
    | some flag => once flag (flag ++ " or NO" ++ flag) (pure (" " ++ key))
    | none => names key

def roleProperties : (bound : Nat) → List (String × String) → Parser (List (String × String))
  | 0, given => return given
  | bound + 1, given => do
    match ← roleProperty given with
    | some p => roleProperties bound (p :: given)
    | none => return given

def createRole : Parser Statement := do
  let condition ← ifNotExists
  let names ← commaSeparated objectName
  let _ ← keyword "WITH"
  let given ← roleProperties ((← read).tokens.size + 1) []
  let order := roleFlags
    ++ ["CONNECTION LIMIT", "PASSWORD", "VALID UNTIL", "IN ROLE", "IN GROUP", "ROLE", "USER", "ADMIN"]
  let spelled := order.filterMap fun property => (given.find? (·.1 == property)).map (·.2)
  return plain ("CREATE ROLE " ++ condition ++ listed (names.map Name.spelling)
    ++ String.join spelled)

def roleOption : Parser String := do
  match ← oneOf? (roleFlagWords ++ ["PASSWORD", "CONNECTION", "VALID"]) with
  | none => expectedHere "option"
  | some "PASSWORD" => rolePassword
  | some "CONNECTION" =>
    expectKeyword "LIMIT"
    return " CONNECTION LIMIT " ++ (← numberValue)
  | some "VALID" =>
    expectKeyword "UNTIL"
    return " VALID UNTIL " ++ (← value)
  | some flag => return " " ++ flag

def roleSetting (g : Grammar) : Parser (List Piece) := do
  let name := Name.spelling (← objectName)
  if ← keywords ["FROM", "CURRENT"] then return text ("SET " ++ name ++ " FROM CURRENT")
  if ← either (symbol .eq) (keyword "TO") then
    if ← keyword "DEFAULT" then return text ("SET " ++ name ++ " TO DEFAULT")
    return [.text ("SET " ++ name ++ " TO "), .expr (← exprOr g "config value")]
  else expectedHere "'TO' or '=' or 'FROM CURRENT'"

def alterRole (g : Grammar) : Parser Statement := do
  if !(← isAny [.postgres]) then
    refuse "ALTER ROLE is only support for PostgreSqlDialect and MsSqlDialect" .ending
  let name ← identifier
  let database ←
    if ← keywords ["IN", "DATABASE"] then
      match ← lenient? objectName with
      | some database => pure ("IN DATABASE " ++ Name.spelling database ++ " ")
      | none => pure ""
    else pure ""
  let opening := "ALTER ROLE " ++ name.spelling ++ " "
  if ← keyword "RENAME" then
    if !(← keyword "TO") then expectedHere "TO after RENAME"
    return plain (opening ++ "RENAME TO " ++ (← identifier).spelling)
  if ← keyword "SET" then return .other (.text (opening ++ database) :: (← roleSetting g))
  if ← keyword "RESET" then
    let setting ← if ← keyword "ALL" then pure "ALL" else Name.spelling <$> objectName
    return plain (opening ++ database ++ "RESET " ++ setting)
  let _ ← keyword "WITH"
  let options ← many (maybe? roleOption)
  if options.isEmpty then expectedHere "option"
  return plain (opening ++ "WITH" ++ String.join options)

end RowFence.Sql.Parser
