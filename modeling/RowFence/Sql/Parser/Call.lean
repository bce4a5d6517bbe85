import RowFence.Sql.Parser.Precedence
import RowFence.Sql.Parser.DataType

/-! Intervals, windows, and calls of functions. -/

namespace RowFence.Sql.Parser

def timeFields : List String :=
  ["YEAR", "MONTH", "WEEK", "DAY", "DAYOFWEEK", "DAYOFYEAR", "DATE", "DATETIME", "HOUR", "MINUTE",
    "SECOND", "CENTURY", "DECADE", "DOY", "DOW", "EPOCH", "ISODOW", "ISOYEAR", "ISOWEEK",
    "JULIAN", "MICROSECOND", "MICROSECONDS", "MILLENIUM", "MILLENNIUM", "MILLISECOND",
    "MILLISECONDS", "NANOSECOND", "NANOSECONDS", "QUARTER", "TIME", "TIMEZONE", "TIMEZONE_ABBR",
    "TIMEZONE_HOUR", "TIMEZONE_MINUTE", "TIMEZONE_REGION"]

def intervalUnits : List String :=
  timeFields.filter fun key =>
    !(["DAYOFWEEK", "DAYOFYEAR", "DATE", "DATETIME", "ISOWEEK", "TIME", "TIMEZONE_ABBR",
      "TIMEZONE_REGION"].contains key)

def timeField : Parser String := do
  let found ← next
  match found.token with
  | .word w =>
    if ← both (pure (w.key == "WEEK")) (both (isAny [.generic]) (symbol .lParen)) then
      let day ← identifier
      expectSymbol .rParen
      return "WEEK(" ++ day.spelling ++ ")"
    else if timeFields.contains w.key then return w.key
    else if ← isAny [.postgres, .generic] then return (Ident.ofWord w).spelling
    else expected "date/time field" found
  | .string .single s =>
    if ← isAny [.postgres, .generic] then return Literal.single s
    else expected "date/time field" found
  | _ => expected "date/time field" found

def intervalNeedsUnit : Parser Bool := return (← dialect) == .mysql

def precisionClause : Parser String := do
  if ← symbol .lParen then
    let n ← literalNat
    expectSymbol .rParen
    return " (" ++ toString n ++ ")"
  else return ""

def secondsPrecision : Parser String := do
  if ← symbol .lParen then
    let n ← literalNat
    let fraction ← if ← symbol .comma then pure (", " ++ toString (← literalNat)) else pure ""
    expectSymbol .rParen
    return " (" ++ toString n ++ fraction ++ ")"
  else return ""

/-- What follows the word `INTERVAL`; the value before the unit is parsed by the argument. -/
def interval (amount : Parser Expr) : Parser Expr := do
  let amount ← amount
  let unit ←
    if intervalUnits.contains (← peekKey) then timeField
    else if ← intervalNeedsUnit then
      refuse "INTERVAL requires a unit after the literal value" (← peek).place
    else pure ""
  let unitText := if unit.isEmpty then "" else " " ++ unit
  let range ←
    if unit == "SECOND" then secondsPrecision
    else
      let precision ← precisionClause
      if ← keyword "TO" then
        let last ← timeField
        let fraction ← if last == "SECOND" then precisionClause else pure ""
        pure (precision ++ " TO " ++ last ++ fraction)
      else pure precision
  return .form [.text "INTERVAL ", .expr amount, .text (unitText ++ range)]

def sortDirection : Parser String := do
  let order ← phrase [["ASC"], ["DESC"]]
  let nulls ← phrase [["NULLS", "FIRST"], ["NULLS", "LAST"]]
  return order ++ nulls

def fillBound (g : Grammar) (key : String) : Parser (List Piece) := do
  if ← keyword key then return [.text (" " ++ key ++ " "), .expr (← g.expr)] else return []

def orderKey (g : Grammar) : Parser OrderKey := do
  let key ← g.expr
  let direction ← sortDirection
  let fill ←
    if ← both (isAny [.generic]) (keywords ["WITH", "FILL"]) then
      let lower ← fillBound g "FROM"
      let upper ← fillBound g "TO"
      let step ← fillBound g "STEP"
      pure (text " WITH FILL" ++ lower ++ upper ++ step)
    else pure []
  return { key, direction, fill }

def orderPieces (k : OrderKey) : List Piece := .expr k.key :: .text k.direction :: k.fill

def orderList (g : Grammar) : Parser (List Piece) := do
  return commaPieces ((← commaSeparated (orderKey g)).map orderPieces)

def frameBound (g : Grammar) (interval : Parser Expr) : Parser (List Piece) := do
  if ← keywords ["CURRENT", "ROW"] then return text "CURRENT ROW"
  let offset ←
    if ← keyword "UNBOUNDED" then pure (text "UNBOUNDED")
    else
      match ← peekToken with
      | .string .single _ => pieceOf <$> interval
      | _ => pieceOf <$> g.expr
  if ← keyword "PRECEDING" then return offset ++ text " PRECEDING"
  if ← keyword "FOLLOWING" then return offset ++ text " FOLLOWING"
  expectedHere "PRECEDING or FOLLOWING"

def windowFrame (g : Grammar) (interval : Parser Expr) : Parser (List Piece) := do
  let found ← next
  let unit := found.token.key
  if !(["ROWS", "RANGE", "GROUPS"].contains unit) then expected "ROWS, RANGE, GROUPS" found
  if ← keyword "BETWEEN" then
    let start ← frameBound g interval
    expectKeyword "AND"
    let finish ← frameBound g interval
    return text (unit ++ " BETWEEN ") ++ start ++ text " AND " ++ finish
  else return text (unit ++ " ") ++ (← frameBound g interval)

def windowSpec (g : Grammar) (interval : Parser Expr) : Parser (List Piece) := do
  let name ← match ← peekToken with
    | .word w =>
      if w.quote.isSome || !isKeyword w.key then pure [text (← identifier).spelling] else pure []
    | _ => pure []
  let partition ←
    if ← keywords ["PARTITION", "BY"] then
      pure [text "PARTITION BY " ++ exprPieces (← commaSeparated g.expr)]
    else pure []
  let order ←
    if ← keywords ["ORDER", "BY"] then pure [text "ORDER BY " ++ (← orderList g)] else pure []
  let frame ←
    if ← symbol .rParen then pure []
    else
      let frame ← windowFrame g interval
      expectSymbol .rParen
      pure [frame]
  return separatedBy " " (name ++ partition ++ order ++ frame)

def wildcardOr (g : Grammar) : Parser (List Piece) := do
  let start ← get
  let found ← next
  match found.token with
  | .symbol .mul => return text "*"
  | .word _ | .string .single _ =>
    if ← atSymbol .period then
      set start
      let first ← identifier
      let parts ← many do
        if ← symbol .period then
          let found ← next
          match found.token with
          | .word w => return some (Ident.ofWord w)
          | .string .single s => return some ⟨s, some '\''⟩
          | .symbol .mul =>
            back
            back
            return none
          | _ => expected "an identifier or a '*' after '.'" found
        else return none
      if (← symbols [.period, .mul]) then
        return text (Name.spelling (first :: parts) ++ ".*")
  | _ => pure ()
  set start
  return pieceOf (← g.expr)

def functionArgument (g : Grammar) : Parser (List Piece) := do
  if ← symbolAt 1 .rArrow then
    let name ← identifier
    expectSymbol .rArrow
    return text (name.spelling ++ " => ") ++ (← wildcardOr g)
  else if (← dialect) == .generic && (← symbolAt 1 .assignment) then
    let name ← identifier
    expectSymbol .assignment
    return text (name.spelling ++ " := ") ++ pieceOf (← g.expr)
  else wildcardOr g

def nullTreatment? : Parser (Option String) := do
  match ← oneOf? ["RESPECT", "IGNORE"] with
  | some key =>
    expectKeyword "NULLS"
    return some (key ++ " NULLS")
  | none => return none

def duplicates : Parser String := do
  let place := (← peek).place
  let all ← keyword "ALL"
  let distinct ← keyword "DISTINCT"
  if all && distinct then refuse "Cannot specify both ALL and DISTINCT" place
  return if all then "ALL " else if distinct then "DISTINCT " else ""

def onOverflow (g : Grammar) : Parser (List (List Piece)) := do
  if !(← keywords ["ON", "OVERFLOW"]) then return []
  if ← keyword "ERROR" then return [text "ON OVERFLOW ERROR"]
  expectKeyword "TRUNCATE"
  let found ← peek
  let filler ← match found.token with
    | .string kind _ =>
      if [StringKind.single, .escaped, .unicode, .national, .hex].contains kind then
        pure (.text " " :: pieceOf (← g.expr))
      else expected "either filler, WITH, or WITHOUT in LISTAGG" found
    | .word w =>
      if w.key == "WITH" || w.key == "WITHOUT" then pure []
      else expected "either filler, WITH, or WITHOUT in LISTAGG" found
    | _ => expected "either filler, WITH, or WITHOUT in LISTAGG" found
  let counted ← match ← oneOf? ["WITH", "WITHOUT"] with
    | some key => pure key
    | none => expectedHere "either WITH or WITHOUT in LISTAGG"
  expectKeyword "COUNT"
  return [text "ON OVERFLOW TRUNCATE" ++ filler ++ text (" " ++ counted ++ " COUNT")]

/-- The arguments of a call after the opening parenthesis, up to and with the closing one, and
whether they say how nulls are treated. -/
def argumentList (g : Grammar) : Parser (List Piece × Bool) := do
  if ← symbol .rParen then return ([], false)
  let distinct ← duplicates
  let arguments ← commaSeparated (functionArgument g)
  let d ← dialect
  let nulls ← if d == .generic then nullTreatment? else pure none
  let order ←
    if ← keywords ["ORDER", "BY"] then pure [text "ORDER BY " ++ (← orderList g)] else pure []
  let limit ←
    if ← keyword "LIMIT" then pure [text "LIMIT " ++ pieceOf (← g.expr)] else pure []
  let having ←
    if ← both (pure (d == .generic)) (keyword "HAVING") then
      let bound ← expectOneOf ["MIN", "MAX"]
      pure [text ("HAVING " ++ bound ++ " ") ++ pieceOf (← g.expr)]
    else pure []
  let separator ←
    if ← both (pure (d == .generic || d == .mysql)) (keyword "SEPARATOR") then
      pure [text ("SEPARATOR " ++ (← value))]
    else pure []
  let overflow ← onOverflow g
  expectSymbol .rParen
  let clauses := (nulls.toList.map text) ++ order ++ limit ++ having ++ separator ++ overflow
  return (text distinct ++ commaPieces arguments ++ clauses.flatMap (text " " ++ ·), nulls.isSome)

def inPieceParens (pieces : List Piece) : List Piece := .text "(" :: pieces ++ text ")"

def aggregateFilter (g : Grammar) : Parser (List Piece) := do
  if ← both (isAny [.postgres, .sqlite, .generic])
      (both (keyword "FILTER") (both (symbol .lParen) (keyword "WHERE"))) then
    let condition ← g.expr
    expectSymbol .rParen
    return [.text " FILTER (WHERE ", .expr condition, .text ")"]
  else return []

def overClause (g : Grammar) (interval : Parser Expr) : Parser (List Piece) := do
  if !(← keyword "OVER") then return []
  if ← symbol .lParen then return text " OVER " ++ inPieceParens (← windowSpec g interval)
  return text (" OVER " ++ (← identifier).spelling)

def functionCall (g : Grammar) (interval : Parser Expr) (name : Name) : Parser Expr := do
  expectSymbol .lParen
  let (first, firstNulls) ← argumentList g
  let (parameters, arguments, nulls) ←
    if ← both (isAny [.generic]) (symbol .lParen) then
      let (second, secondNulls) ← argumentList g
      pure (inPieceParens first, second, secondNulls)
    else pure ([], first, firstNulls)
  let within ←
    if ← keywords ["WITHIN", "GROUP"] then
      expectSymbol .lParen
      expectKeywords ["ORDER", "BY"]
      let order ← orderList g
      expectSymbol .rParen
      pure (.text " WITHIN GROUP (ORDER BY " :: order ++ text ")")
    else pure []
  let filter ← aggregateFilter g
  let treatment ← if nulls then pure none else nullTreatment?
  let window ← overClause g interval
  return .call name
    (parameters ++ inPieceParens arguments ++ within ++ filter
      ++ (treatment.map (" " ++ ·)).toList.flatMap text ++ window)

end RowFence.Sql.Parser
