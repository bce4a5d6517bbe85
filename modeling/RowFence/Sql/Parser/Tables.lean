import RowFence.Sql.Parser.Expr

/-! Tables of a FROM clause: base tables, subqueries, table functions and joins of them. -/

namespace RowFence.Sql.Parser

def tableAlias : Parser (Option TableAlias) := do
  match ← optionalAlias tableStops with
  | some name => return some { name, columns := ← columnNames true }
  | none => return none

def setting : Parser String := do
  let key ← identifier
  expectSymbol .eq
  return key.spelling ++ " = " ++ (← value)

def settings : Parser (Option String) := do
  if ← both (isAny [.generic]) (keyword "SETTINGS") then
    return some ("SETTINGS " ++ listed (← commaSeparated setting))
  else return none

def tableArgument (g : Grammar) : Parser (List Piece) := do
  match ← settings with
  | some s => return text s
  | none => functionArgument g

def tableArguments (g : Grammar) : Parser (List Piece) := do
  if ← symbol .rParen then return text "()"
  let first ← tableArgument g
  let others ← many do
    if (← symbol .comma) then some <$> tableArgument g else return none
  expectSymbol .rParen
  return inPieceParens (commaPieces (first :: others))

def parenthesizedText (pieces : List Piece) (opening : String) : List Piece :=
  .text (opening ++ "(") :: pieces ++ text ")"

/-! Table functions with a syntax of their own. -/

def jsonFallback : Parser (Option String) := do
  let action? ← match ← oneOf? ["NULL", "ERROR", "DEFAULT"] with
    | some "DEFAULT" => pure (some ("DEFAULT " ++ (← value)))
    | key? => pure key?
  match action? with
  | none => return none
  | some action =>
    expectKeyword "ON"
    return some action

def jsonFallbacks : Parser String := do
  let found ← many do
    match ← jsonFallback with
    | none => return none
    | some action =>
      if ← keyword "EMPTY" then return some (true, action)
      expectKeyword "ERROR"
      return some (false, action)
  let lastOf (empty : Bool) := (found.filter (·.1 == empty)).getLast?
  let spell (suffix : String) (f? : Option (Bool × String)) :=
    (f?.map fun f => " " ++ f.2 ++ suffix).getD ""
  return spell " ON EMPTY" (lastOf true) ++ spell " ON ERROR" (lastOf false)

def jsonColumnWithin (g : Grammar) : (depth : Nat) → Parser (List Piece)
  | 0 => fail .tooDeep
  | depth + 1 => do
    if ← keyword "NESTED" then
      let _ ← keyword "PATH"
      let path ← value
      expectKeyword "COLUMNS"
      let columns ← parenthesized (commaSeparated (jsonColumnWithin g depth))
      return .text ("NESTED PATH " ++ path ++ " COLUMNS (") :: commaPieces columns ++ text ")"
    let name ← identifier
    if ← keyword "FOR" then
      expectKeyword "ORDINALITY"
      return text (name.spelling ++ " FOR ORDINALITY")
    let t ← dataType g
    let exists? ← keyword "EXISTS"
    expectKeyword "PATH"
    let path ← value
    let fallbacks ← jsonFallbacks
    return .text (name.spelling ++ " ") :: t.pieces
      ++ text ((if exists? then " EXISTS" else "") ++ " PATH " ++ path ++ fallbacks)

def jsonTable (g : Grammar) : Parser TableFactor := do
  let document ← g.expr
  expectSymbol .comma
  let path ← value
  expectKeyword "COLUMNS"
  let columns ←
    parenthesized (commaSeparated (jsonColumnWithin g ((← read).tokens.size + 1)))
  expectSymbol .rParen
  let pieces := [.text "JSON_TABLE(", .expr document, .text (", " ++ path ++ " COLUMNS(")]
    ++ commaPieces columns ++ text "))"
  return .other pieces (← tableAlias) []

def unnest (g : Grammar) : Parser TableFactor := do
  let arrays ← parenthesized (commaSeparated g.expr)
  let ordinality ← keywords ["WITH", "ORDINALITY"]
  let alias? ← tableAlias
  let offset ←
    if ← both (keyword "WITH") (keyword "OFFSET") then
      match ← optionalAlias columnStops with
      | some name => pure (text (" WITH OFFSET AS " ++ name.spelling))
      | none => pure (text " WITH OFFSET")
    else pure []
  let pieces := parenthesizedText (exprPieces arrays) "UNNEST"
    ++ (if ordinality then text " WITH ORDINALITY" else [])
  return .other pieces alias? offset

def aliasSuffix (parsed : Bool) : Parser String := do
  if parsed then return " AS " ++ (← identifier).spelling else return ""

def pivotAggregate (g : Grammar) : Parser (List Piece) := do
  let found ← next
  match found.token with
  | .word w =>
    let e ← call g [⟨w.value, none⟩]
    return .expr e :: text (← aliasSuffix (← keyword "AS"))
  | _ => expectedHere "a function identifier"

def pivotValues (g : Grammar) : Parser (List Piece) := do
  if ← keyword "ANY" then
    if ← keywords ["ORDER", "BY"] then return text "ANY ORDER BY " ++ (← orderList g)
    else return text "ANY"
  else if ← atQuery then return [.query (← g.query)]
  else
    commaPieces <$> commaSeparated do
      let e ← g.expr
      return .expr e :: text (← aliasSuffix (← keyword "AS"))

def pivot (g : Grammar) (t : TableFactor) : Parser TableFactor := do
  expectSymbol .lParen
  let aggregates ← commaSeparated (pivotAggregate g)
  expectKeyword "FOR"
  let column ← objectName
  expectKeyword "IN"
  let values ← parenthesized (pivotValues g)
  let onNull ←
    if ← keywords ["DEFAULT", "ON", "NULL"] then
      let e ← parenthesized g.expr
      pure [.text " DEFAULT ON NULL (", .expr e, .text ")"]
    else pure []
  expectSymbol .rParen
  let pieces := [.table t, .text " PIVOT("] ++ commaPieces aggregates
    ++ text (" FOR " ++ column.spelling ++ " IN (") ++ values ++ text ")" ++ onNull ++ text ")"
  return .other pieces (← tableAlias) []

def unpivot (t : TableFactor) : Parser TableFactor := do
  expectSymbol .lParen
  let value ← identifier
  expectKeyword "FOR"
  let name ← identifier
  expectKeyword "IN"
  let columns ← columnNames false
  expectSymbol .rParen
  let pieces := [.table t, .text (" UNPIVOT(" ++ value.spelling ++ " FOR " ++ name.spelling
    ++ " IN (" ++ namesText columns ++ "))")]
  return .other pieces (← tableAlias) []

/-- Each rotation of rows and columns takes a keyword, which bounds their number. -/
def rotated (g : Grammar) : (bound : Nat) → TableFactor → Parser TableFactor
  | 0, t => return t
  | bound + 1, t => do
    match ← oneOf? ["PIVOT", "UNPIVOT"] with
    | some "PIVOT" => rotated g bound (← pivot g t)
    | some _ => rotated g bound (← unpivot t)
    | none => return t

/-! Row patterns. -/

def braced (s : String) : String := "\x7b" ++ s ++ "\x7d"

def rowRange : Parser String := do
  let found ← next
  let count (digits : String) : Parser String := toString <$> numberOfBits 32 digits found.place
  match found.token with
  | .symbol .comma =>
    let upper ← next
    match upper.token with
    | .number m _ =>
      expectSymbol .rBrace
      return braced ("," ++ (← count m))
    | _ => expected "literal number" upper
  | .number n _ =>
    if ← symbol .comma then
      let upper ← next
      match upper.token with
      | .number m _ =>
        expectSymbol .rBrace
        return braced ((← count n) ++ "," ++ (← count m))
      | .symbol .rBrace => return braced ((← count n) ++ ",")
      | _ => expected "\x7d or upper bound" upper
    else
      expectSymbol .rBrace
      return braced (← count n)
  | _ => expected "quantifier range" found

def rowQuantifier : Parser (Option String) := do
  let found ← next
  match found.token with
  | .symbol .mul => return some "*"
  | .symbol .plus => return some "+"
  | .parameter "?" => return some "?"
  | .symbol .lBrace => some <$> rowRange
  | _ =>
    back
    return none

def rowSymbol (pattern : Parser String) : Parser String := do
  let found ← next
  match found.token with
  | .symbol .caret => return "^"
  | .parameter "$" => return "$"
  | .symbol .lBrace =>
    expectSymbol .minus
    let name ← identifier
    expectSymbol .minus
    expectSymbol .rBrace
    return braced ("- " ++ name.spelling ++ " -")
  | .symbol .lParen =>
    let inner ← pattern
    expectSymbol .rParen
    return "( " ++ inner ++ " )"
  | .word w =>
    if w.value == "PERMUTE" && w.quote.isNone then
      return "PERMUTE(" ++ namesText (← parenthesizedNames) ++ ")"
    else return (Ident.ofWord w).spelling
  | _ =>
    back
    return (← identifier).spelling

def rowPatternWithin : (depth : Nat) → Parser String
  | 0 => fail .tooDeep
  | depth + 1 => do
    let repetition : Parser String := do
      let s ← rowSymbol (rowPatternWithin depth)
      return s ++ String.join (← many rowQuantifier)
    let sequence : Parser String := do
      let first ← repetition
      let others ← many do
        if (← atSymbol .rParen) || (← atSymbol .pipe) then return none else some <$> repetition
      return " ".intercalate (first :: others)
    return " | ".intercalate (← separated (symbol .pipe) sequence)

def afterMatch : Parser String := do
  if !(← keywords ["AFTER", "MATCH", "SKIP"]) then return ""
  if ← keywords ["PAST", "LAST", "ROW"] then return "AFTER MATCH SKIP PAST LAST ROW "
  if ← keywords ["TO", "NEXT", "ROW"] then return "AFTER MATCH SKIP TO NEXT ROW "
  if ← keywords ["TO", "FIRST"] then
    return "AFTER MATCH SKIP TO FIRST " ++ (← identifier).spelling ++ " "
  if ← keywords ["TO", "LAST"] then
    return "AFTER MATCH SKIP TO LAST " ++ (← identifier).spelling ++ " "
  expected "after match skip option" (← next)

def rowsPerMatch : Parser String := do
  if ← keywords ["ONE", "ROW", "PER", "MATCH"] then return "ONE ROW PER MATCH "
  if ← keywords ["ALL", "ROWS", "PER", "MATCH"] then
    let mode ← phrase [["SHOW", "EMPTY", "MATCHES"], ["OMIT", "EMPTY", "MATCHES"],
      ["WITH", "UNMATCHED", "ROWS"]]
    return "ALL ROWS PER MATCH" ++ mode ++ " "
  return ""

def matchRecognize (g : Grammar) (t : TableFactor) : Parser TableFactor := do
  expectSymbol .lParen
  let partition ←
    if ← keywords ["PARTITION", "BY"] then
      pure (text "PARTITION BY " ++ exprPieces (← commaSeparated g.expr) ++ text " ")
    else pure []
  let order ←
    if ← keywords ["ORDER", "BY"] then pure (text "ORDER BY " ++ (← orderList g) ++ text " ")
    else pure []
  let measures ←
    if ← keyword "MEASURES" then
      let items ← commaSeparated do
        let e ← g.expr
        let _ ← keyword "AS"
        return .expr e :: text (" AS " ++ (← identifier).spelling)
      pure (text "MEASURES " ++ commaPieces items ++ text " ")
    else pure []
  let rows ← rowsPerMatch
  let after ← afterMatch
  expectKeyword "PATTERN"
  let pattern ← parenthesized (rowPatternWithin ((← read).tokens.size + 1))
  expectKeyword "DEFINE"
  let symbols ← commaSeparated do
    let name ← identifier
    expectKeyword "AS"
    return .text (name.spelling ++ " AS ") :: pieceOf (← g.expr)
  expectSymbol .rParen
  let pieces := [.table t, .text " MATCH_RECOGNIZE("] ++ partition ++ order ++ measures
    ++ text (rows ++ after ++ "PATTERN (" ++ pattern ++ ") DEFINE ") ++ commaPieces symbols
    ++ text ")"
  return .other pieces (← tableAlias) []

/-! Base tables, subqueries and joins. -/

def partitionClause : Parser (List Piece) := do
  if ← both (isAny [.mysql, .generic]) (keyword "PARTITION") then
    return text ("PARTITION (" ++ namesText (← parenthesizedNames) ++ ")")
  else return []

def tableHints (g : Grammar) : Parser (List Piece) := do
  if ← keyword "WITH" then
    if ← symbol .lParen then
      let hints ← commaSeparated g.expr
      expectSymbol .rParen
      return .text " WITH (" :: exprPieces hints ++ text ")"
    else
      back
      return []
  else return []

def baseTable (g : Grammar) : Parser TableFactor := do
  let name ← objectName
  let partitions ← partitionClause
  let arguments ← if ← symbol .lParen then tableArguments g else pure []
  let ordinality ← if ← keywords ["WITH", "ORDINALITY"] then pure (text " WITH ORDINALITY") else pure []
  let alias? ← tableAlias
  let hints ← tableHints g
  let bound := (← read).tokens.size
  let t ← rotated g bound (.base name (partitions ++ arguments ++ ordinality) alias? hints)
  if ← both (isAny [.generic]) (keyword "MATCH_RECOGNIZE") then matchRecognize g t else return t

def derivedTable (g : Grammar) (lateral : Bool) : Parser TableFactor := do
  let q ← g.query
  expectSymbol .rParen
  return .derived lateral q (← tableAlias)

def lateralTable (g : Grammar) : Parser TableFactor := do
  if ← symbol .lParen then derivedTable g true
  else
    let name ← objectName
    expectSymbol .lParen
    let arguments ←
      if ← symbol .rParen then pure []
      else
        let arguments ← commaSeparated (functionArgument g)
        expectSymbol .rParen
        pure arguments
    let function := .base name (inPieceParens (commaPieces arguments)) none []
    return .other [.text "LATERAL ", .table function] (← tableAlias) []

def tableFunction (g : Grammar) : Parser TableFactor := do
  let e ← parenthesized g.expr
  return .other [.text "TABLE(", .expr e, .text ")"] (← tableAlias) []

def valuesRow (g : Grammar) (emptyAllowed : Bool) : Parser (Bool × List Piece) := do
  let explicit ← keyword "ROW"
  expectSymbol .lParen
  if ← both (pure emptyAllowed) (symbol .rParen) then return (explicit, text "()")
  let es ← commaSeparated g.expr
  expectSymbol .rParen
  return (explicit, inPieceParens (exprPieces es))

/-- Rows of values after their keyword. If one row is marked as such, all are. -/
def valuesRows (g : Grammar) (emptyAllowed : Bool) : Parser (List Piece) := do
  let rows ← commaSeparated (valuesRow g emptyAllowed)
  let mark := if rows.any (·.1) then text "ROW" else []
  return text "VALUES " ++ commaPieces (rows.map fun row => mark ++ row.2)

def rowsQuery (rows : List Piece) : Query where
  recursive := false
  ctes := []
  body := .rows rows
  orderBy := []
  interpolate := []
  limit := none
  tail := []

def joinConstraint (g : Grammar) (natural : Bool) : Parser JoinConstraint := do
  if natural then return .natural
  else if ← keyword "ON" then return .on (← g.expr)
  else if ← keyword "USING" then return .shared (← columnNames false)
  else return .none

def sidedJoin (side : String) (outer semi anti : JoinOp) : Parser JoinOp := do
  match ← oneOf? ["OUTER", "SEMI", "ANTI", "JOIN"] with
  | some "OUTER" =>
    expectKeyword "JOIN"
    return outer
  | some "SEMI" =>
    expectKeyword "JOIN"
    return semi
  | some "ANTI" =>
    expectKeyword "JOIN"
    return anti
  | some _ => return outer
  | none => refuse ("expected OUTER, SEMI, ANTI or JOIN after " ++ side) .ending

def constrainedJoin (natural : Bool) : Parser (Option JoinOp) := do
  match ← peekKey with
  | "INNER" | "JOIN" =>
    let _ ← keyword "INNER"
    expectKeyword "JOIN"
    return some .inner
  | "LEFT" =>
    skip
    some <$> sidedJoin "LEFT" .left .leftSemi .leftAnti
  | "RIGHT" =>
    skip
    some <$> sidedJoin "RIGHT" .right .rightSemi .rightAnti
  | "FULL" =>
    skip
    let _ ← keyword "OUTER"
    expectKeyword "JOIN"
    return some .full
  | "OUTER" => expectedHere "LEFT, RIGHT, or FULL"
  | _ => if natural then expectedHere "a join type after NATURAL" else return none

def join (g : Grammar) (factor : Parser TableFactor) : Parser (Option Join) := do
  let isGlobal ← keyword "GLOBAL"
  let plain (op : JoinOp) : Parser (Option Join) := do
    return some { isGlobal, op, relation := ← factor, matching := none, constraint := .none }
  if ← keyword "CROSS" then
    if ← keyword "JOIN" then plain .cross
    else if ← keyword "APPLY" then plain .crossApply
    else expectedHere "JOIN or APPLY after CROSS"
  else if ← keyword "OUTER" then
    expectKeyword "APPLY"
    plain .outerApply
  else if ← keyword "ASOF" then
    expectKeyword "JOIN"
    let relation ← factor
    expectKeyword "MATCH_CONDITION"
    let matching ← parenthesized g.expr
    return some { isGlobal, op := .asOf, relation, matching := some matching,
                  constraint := ← joinConstraint g false }
  else
    let natural ← keyword "NATURAL"
    match ← constrainedJoin natural with
    | none => return none
    | some op =>
      let relation ← factor
      return some { isGlobal, op, relation, matching := none,
                    constraint := ← joinConstraint g natural }

def joined (g : Grammar) (factor : Parser TableFactor) : Parser TableWithJoins := do
  return { relation := ← factor, joins := ← many (join g factor) }

def outerAlias (t : TableFactor) (a : TableAlias) : Parser TableFactor := do
  let known? := match t with
    | .base _ _ alias? _ => alias?
    | .derived _ _ alias? => alias?
    | .nested _ alias? => alias?
    | .other _ alias? _ => alias?
  match known?, t with
  | some known, _ => refuse ("duplicate alias " ++ known.spelling) .ending
  | none, .base name arguments _ hints => return .base name arguments (some a) hints
  | none, .derived lateral q _ => return .derived lateral q (some a)
  | none, .nested inner _ => return .nested inner (some a)
  | none, .other pieces _ tail => return .other pieces (some a) tail

/-- A join in parentheses, after the opening one. Only one dialect takes a single table so. -/
def nestedTable (g : Grammar) (factor : Parser TableFactor) : Parser TableFactor := do
  let inner ← joined g factor
  let isJoin := !inner.joins.isEmpty || match inner.relation with | .nested _ _ => true | _ => false
  if isJoin then
    expectSymbol .rParen
    return .nested inner (← tableAlias)
  else if (← dialect) == .generic then
    expectSymbol .rParen
    match ← tableAlias with
    | some a => outerAlias inner.relation a
    | none => return inner.relation
  else expectedHere "joined table"

def tableFactorWithin (g : Grammar) : (depth : Nat) → Parser TableFactor
  | 0 => fail .tooDeep
  | depth + 1 => do
    let d ← dialect
    if ← keyword "LATERAL" then lateralTable g
    else if ← keyword "TABLE" then tableFunction g
    else if ← symbol .lParen then
      match ← maybe? (derivedTable g false) with
      | some t => rotated g (← read).tokens.size t
      | none => nestedTable g (tableFactorWithin g depth)
    else if d == .generic && (← atKeyword "VALUES") && (← symbolAt 1 .lParen) then
      skip
      let rows ← valuesRows g false
      return .derived false (rowsQuery rows) (← tableAlias)
    else if ← both (pure (d == .postgres || d == .generic)) (keyword "UNNEST") then unnest g
    else if (← atKeyword "JSON_TABLE") && (← symbolAt 1 .lParen) then
      skip
      skip
      jsonTable g
    else baseTable g

def tableFactor (g : Grammar) : Parser TableFactor := do
  tableFactorWithin g ((← read).tokens.size + 1)

def tableWithJoins (g : Grammar) : Parser TableWithJoins := joined g (tableFactor g)

end RowFence.Sql.Parser
