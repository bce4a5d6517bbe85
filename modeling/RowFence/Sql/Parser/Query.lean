import RowFence.Sql.Parser.Select

/-! Queries: common table expressions, set operations, and the clauses after them. -/

namespace RowFence.Sql.Parser

/-- Whether the rows of a common table are computed once, where a dialect lets queries say so. -/
def materialization : Parser (Option Bool) := do
  if (← dialect) != .postgres then return none
  if ← keyword "MATERIALIZED" then return some true
  if ← keywords ["NOT", "MATERIALIZED"] then return some false
  return none

def commonTable (g : Grammar) : Parser Cte := do
  let name ← identifier
  let direct ← keyword "AS"
  let columns ← if direct then pure [] else columnNames true
  if !direct then expectKeyword "AS"
  let materialized ← materialization
  let query ← parenthesized g.query
  let source? ← if ← keyword "FROM" then some <$> identifier else pure none
  return { given := { name, columns }, query, source?, materialized }

def explicitTable : Parser String := do
  let first ← next
  let second ← next
  let third ← next
  let named (wanted : String) (found : PlacedToken) : Parser String := do
    match found.token with
    | .word w => return w.value
    | _ => expected wanted found
  if second.token == .symbol .period then
    let schema ← named "Schema name" first
    return "TABLE " ++ schema ++ "." ++ (← named "Table name" third)
  else return "TABLE " ++ (← named "Table name" first)

def setOp? : Parser (Option SetOp) := do
  match ← peekKey with
  | "UNION" => return some .union
  | "EXCEPT" => return some .except
  | "INTERSECT" => return some .intersect
  | _ => return none

def setQuantifier : Parser String := do
  if ← keywords ["DISTINCT", "BY", "NAME"] then return " DISTINCT BY NAME"
  if ← keywords ["BY", "NAME"] then return " BY NAME"
  if ← keyword "ALL" then
    if ← keywords ["BY", "NAME"] then return " ALL BY NAME" else return " ALL"
  if ← keyword "DISTINCT" then return " DISTINCT"
  return ""

def bodyOperand (g : Grammar) : Parser Body := do
  if ← keyword "SELECT" then return .select (← select g)
  else if ← symbol .lParen then
    let q ← g.query
    expectSymbol .rParen
    return .query q
  else if ← keyword "VALUES" then return .rows (← valuesRows g ((← dialect) == .mysql))
  else if ← keyword "TABLE" then return .table (← explicitTable)
  else expectedHere "SELECT, VALUES, or a subquery in the query body"

/-- Continues a body while set operations bind tighter than its surroundings; `operand` parses
what follows an operation of the given strength. -/
def continuedBody (surroundings : Nat) (operand : Nat → Parser Body) :
    (bound : Nat) → Body → Parser Body
  | 0, left => return left
  | bound + 1, left => do
    match ← setOp? with
    | none => return left
    | some op =>
      if surroundings ≥ op.strength then return left
      skip
      let quantifier ← setQuantifier
      let right ← operand (op.strength)
      continuedBody surroundings operand bound (.setOp left op quantifier right)

/-- Operations have two strengths, so bodies nest three deep without parentheses. -/
def bodyWithin (g : Grammar) : (depth : Nat) → (surroundings : Nat) → Parser Body
  | 0, _ => bodyOperand g
  | depth + 1, surroundings => do
    let first ← bodyOperand g
    continuedBody surroundings (bodyWithin g depth) ((← read).tokens.size + 1) first

def body (g : Grammar) : Parser Body := bodyWithin g 3 0

def interpolation (g : Grammar) : Parser (List Piece) := do
  let column ← identifier
  if ← keyword "AS" then return [.text (column.spelling ++ " AS "), .expr (← g.expr)]
  else return text column.spelling

def interpolations (g : Grammar) : Parser (List Piece) := do
  if !(← both (isAny [.generic]) (keyword "INTERPOLATE")) then return []
  if ← symbol .lParen then
    let items ← commaSeparated0 (interpolation g) .rParen
    expectSymbol .rParen
    return .text " INTERPOLATE (" :: commaPieces items ++ text ")"
  else return text " INTERPOLATE"

def limitExpr (g : Grammar) : Parser (Option Expr) := do
  if ← keyword "ALL" then return none else return some (← g.expr)

def offsetClause (g : Grammar) : Parser (List Piece) := do
  let e ← g.expr
  let unit ← phrase [["ROW"], ["ROWS"]]
  return [.text " OFFSET ", .expr e, .text unit]

structure Bounds where
  limit : Option Expr
  offset : Option (List Piece)

/-- One round of bounds; in some dialects `LIMIT 2, 3` skips two rows and keeps three. -/
def boundsRound (g : Grammar) (b : Bounds) : Parser Bounds := do
  let limit ← if ← both (pure b.limit.isNone) (keyword "LIMIT") then limitExpr g else pure b.limit
  let offset ←
    if ← both (pure b.offset.isNone) (keyword "OFFSET") then some <$> offsetClause g else pure b.offset
  match limit, offset with
  | some skipped, none =>
    if ← both (isAny [.mysql, .generic, .sqlite]) (symbol .comma) then
      let kept ← g.expr
      return ⟨some kept, some [.text " OFFSET ", .expr skipped, .text ""]⟩
    else return ⟨limit, offset⟩
  | _, _ => return ⟨limit, offset⟩

def limitBy (g : Grammar) : Parser (List Piece) := do
  if ← both (isAny [.generic]) (keyword "BY") then
    return .text " BY " :: exprPieces (← commaSeparated g.expr)
  else return []

def fetchClause : Parser (List Piece) := do
  if !(← keyword "FETCH") then return []
  let _ ← expectOneOf ["FIRST", "NEXT"]
  let quantity ←
    if (← oneOf? ["ROW", "ROWS"]).isSome then pure ""
    else
      let n ← value
      let percent ← keyword "PERCENT"
      let _ ← expectOneOf ["ROW", "ROWS"]
      pure (n ++ (if percent then " PERCENT " else " "))
  let ties ←
    if ← keyword "ONLY" then pure "ONLY"
    else
      if ← keywords ["WITH", "TIES"] then pure "WITH TIES"
      else expectedHere "one of ONLY or WITH TIES"
  return text (" FETCH FIRST " ++ quantity ++ "ROWS " ++ ties)

def lockClause : Parser String := do
  let strength ← expectOneOf ["UPDATE", "SHARE"]
  let table ← if ← keyword "OF" then pure (" OF " ++ Name.spelling (← objectName)) else pure ""
  let waiting ← phrase [["NOWAIT"], ["SKIP", "LOCKED"]]
  return " FOR " ++ strength ++ table ++ waiting

def optionalName : Parser String := do
  if ← symbol .lParen then
    let name ← literalString
    expectSymbol .rParen
    return "('" ++ name ++ "')"
  else return ""

def nameInParens : Parser String := do return "('" ++ (← parenthesized literalString) ++ "')"

def xmlClause : Parser String := do
  let mode ← match ← oneOf? ["RAW", "AUTO", "EXPLICIT", "PATH"] with
    | some key =>
      if ["RAW", "PATH"].contains key then pure (key ++ (← optionalName)) else pure key
    | none => refuse "Expected FOR XML [RAW | AUTO | EXPLICIT | PATH ]" .ending
  let options ← many do
    if ← symbol .comma then
      if ← keyword "TYPE" then return some (0, ", TYPE")
      else if ← keyword "ELEMENTS" then return some (2, ", ELEMENTS")
      else if ← keyword "BINARY" then
        expectKeyword "BASE64"
        return some (1, ", BINARY BASE64")
      else if ← keyword "ROOT" then return some (3, ", ROOT" ++ (← nameInParens))
      else return some (4, "")
    else return none
  let option (n : Nat) := ((options.filter (·.1 == n)).getLast?.map (·.2)).getD ""
  return " FOR XML " ++ mode ++ option 1 ++ option 0 ++ option 3 ++ option 2

def jsonClause : Parser String := do
  let mode ← match ← oneOf? ["AUTO", "PATH"] with
    | some key => pure key
    | none => refuse "Expected FOR JSON [AUTO | PATH ]" .ending
  let options ← many do
    if ← symbol .comma then
      if ← keyword "ROOT" then return some (0, ", ROOT" ++ (← nameInParens))
      else if ← keyword "INCLUDE_NULL_VALUES" then return some (1, ", INCLUDE_NULL_VALUES")
      else if ← keyword "WITHOUT_ARRAY_WRAPPER" then return some (2, ", WITHOUT_ARRAY_WRAPPER")
      else return some (3, "")
    else return none
  let option (n : Nat) := ((options.filter (·.1 == n)).getLast?.map (·.2)).getD ""
  return " FOR JSON " ++ mode ++ option 0 ++ option 1 ++ option 2

def forClauses : (bound : Nat) → Parser String
  | 0 => return ""
  | bound + 1 => do
    if !(← keyword "FOR") then return ""
    if ← keyword "XML" then xmlClause
    else if ← keyword "JSON" then jsonClause
    else if ← keyword "BROWSE" then return " FOR BROWSE"
    else
      let lock ← lockClause
      return lock ++ (← forClauses bound)

def formatClause : Parser (List Piece) := do
  if ← both (isAny [.generic]) (keyword "FORMAT") then
    if ← keyword "NULL" then return text " FORMAT NULL"
    else return text (" FORMAT " ++ (← identifier).spelling)
  else return []

def withClause (g : Grammar) : Parser (Bool × List Cte) := do
  if ← keyword "WITH" then
    let recursive ← keyword "RECURSIVE"
    return (recursive, ← commaSeparated (commonTable g))
  else return (false, [])

def orderClause (g : Grammar) : Parser (List OrderKey) := do
  if ← keywords ["ORDER", "BY"] then commaSeparated (orderKey g) else return []

def changeQuery (recursive : Bool) (ctes : List Cte) (s : Statement) : Query where
  recursive := recursive
  ctes := ctes
  body := .change s
  orderBy := []
  interpolate := []
  limit := none
  tail := []

def statementPieces : Statement → List Piece
  | .query q => [.query q]
  | .other pieces => pieces
  | s => [.query (changeQuery false [] s)]

def query (g : Grammar) (insert update : Parser Statement) : Parser Query := do
  let (recursive, ctes) ← withClause g
  if ← keyword "INSERT" then return changeQuery recursive ctes (← insert)
  if ← keyword "UPDATE" then return changeQuery recursive ctes (← update)
  let body ← body g
  let orderBy ← orderClause g
  let interpolate ← if orderBy.isEmpty then pure [] else interpolations g
  let bounds ← boundsRound g (← boundsRound g ⟨none, none⟩)
  let limitBy ← limitBy g
  let settings ← settings
  let fetch ← fetchClause
  let locks ← forClauses ((← read).tokens.size + 1)
  let format ← formatClause
  let tail := bounds.offset.getD [] ++ limitBy ++ (settings.map (" " ++ ·)).toList.flatMap text
    ++ fetch ++ (if locks.isEmpty then [] else text locks) ++ format
  return { recursive, ctes, body, orderBy, interpolate, limit := bounds.limit, tail }

end RowFence.Sql.Parser
