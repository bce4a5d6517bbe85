import RowFence.Sql.Parser.Tables

/-! The clauses of a SELECT. -/

namespace RowFence.Sql.Parser

/-! Options after a wildcard. -/

def columnGroup (item : Parser String) : Parser String := do
  if ← symbol .lParen then
    let items ← commaSeparated item
    expectSymbol .rParen
    return inParens (listed items)
  else item

def renamedColumn : Parser String := do
  let name ← identifier
  expectKeyword "AS"
  return name.spelling ++ " AS " ++ (← identifier).spelling

def likePattern : Parser String := do
  let found ← next
  match found.token with
  | .string .single s => return Literal.single s
  | _ => expected "ilike pattern" found

def exceptColumns : Parser String := do
  if ← atSymbol .lParen then return inParens (namesText (← columnNames false))
  else return inParens (← identifier).spelling

def replacement (g : Grammar) : Parser (List Piece) := do
  let e ← g.expr
  let after ← keyword "AS"
  return .expr e :: text ((if after then " AS " else " ") ++ (← identifier).spelling)

def wildcardOptions (g : Grammar) : Parser (List Piece) := do
  if (← dialect) != .generic then return []
  let like ← if ← keyword "ILIKE" then pure (" ILIKE " ++ (← likePattern)) else pure ""
  let exclude ←
    if ← both (pure like.isEmpty) (keyword "EXCLUDE") then
      pure (" EXCLUDE " ++ (← columnGroup (do return (← identifier).spelling)))
    else pure ""
  let except ← if ← keyword "EXCEPT" then pure (" EXCEPT " ++ (← exceptColumns)) else pure ""
  let replace ←
    if ← keyword "REPLACE" then
      if ← symbol .lParen then
        let items ← commaSeparated (replacement g)
        expectSymbol .rParen
        pure (.text " REPLACE (" :: commaPieces items ++ text ")")
      else expected "( after REPLACE" (← next)
    else pure []
  let rename ← if ← keyword "RENAME" then pure (" RENAME " ++ (← columnGroup renamedColumn)) else pure ""
  let before := like ++ exclude ++ except
  return (if before.isEmpty then [] else text before) ++ replace
    ++ (if rename.isEmpty then [] else text rename)

def wildcard? : Parser (Option Name) := do
  let start ← get
  if ← symbol .mul then return some []
  match ← peekToken with
  | .word _ | .string .single _ =>
    let first ← identifier
    if !(← atSymbol .period) then
      set start
      return none
    let parts ← many do
      if ← symbol .period then
        let found ← next
        match found.token with
        | .word w => return some (Ident.ofWord w)
        | .string .single s => return some ⟨s, some '\''⟩
        | .symbol .mul =>
          back
          back
          return none
        | _ => expected "an identifier or a '*' after '.'" found
      else return none
    if ← symbols [.period, .mul] then return some (first :: parts)
    set start
    return none
  | _ => return none

def isBareFrom : Expr → Option Ident
  | .name [i] => if i.quote.isNone && Text.toLower i.value == "from" then some i else none
  | _ => none

def selectItem (g : Grammar) : Parser SelectItem := do
  match ← wildcard? with
  | some qualifier => return .wildcard qualifier (← wildcardOptions g)
  | none =>
    let e ← g.expr
    match isBareFrom e with
    | some i => refuse ("Expected an expression, found: " ++ i.spelling) (← peek).place
    | none => return .expr e (← optionalAlias columnStops)

def itemPieces : SelectItem → List Piece
  | .expr e none => pieceOf e
  | .expr e (some a) => [.expr e, .text (" AS " ++ a.spelling)]
  | .wildcard [] options => .text "*" :: options
  | .wildcard qualifier options => .text (Name.spelling qualifier ++ ".*") :: options

def topClause (g : Grammar) : Parser (List Piece) := do
  if !(← keyword "TOP") then return []
  let quantity ←
    if ← symbol .lParen then
      let e ← g.expr
      expectSymbol .rParen
      pure [.text " TOP (", .expr e, .text ")"]
    else pure (text (" TOP " ++ toString (← literalNat)))
  let percent ← if ← keyword "PERCENT" then pure (text " PERCENT") else pure []
  let ties ← if ← keywords ["WITH", "TIES"] then pure (text " WITH TIES") else pure []
  return quantity ++ percent ++ ties

def distinctClause (g : Grammar) : Parser Distinct := do
  let place := (← peek).place
  let all ← keyword "ALL"
  if !(← keyword "DISTINCT") then return .none
  if all then refuse "Cannot specify both ALL and DISTINCT" place
  if !(← keyword "ON") then return .rows
  return .on (← parenthesized (commaSeparated0 g.expr .rParen))

def intoClause : Parser String := do
  if !(← keyword "INTO") then return ""
  let temporary ← oneOf? ["TEMP", "TEMPORARY"]
  let unlogged ← keyword "UNLOGGED"
  let table ← keyword "TABLE"
  let name ← objectName
  return " INTO" ++ (if temporary.isSome then " TEMPORARY" else "")
    ++ (if unlogged then " UNLOGGED" else "") ++ (if table then " TABLE" else "") ++ " "
    ++ Name.spelling name

def lateralStops : List String := ["WHERE", "GROUP", "CLUSTER", "HAVING", "LATERAL"]

def lateralView (g : Grammar) : Parser (Option (List Piece)) := do
  if !(← keywords ["LATERAL", "VIEW"]) then return none
  let outer ← keyword "OUTER"
  let e ← g.expr
  let name ← objectName
  let columns := (← commaSeparated (optionalAlias lateralStops)).filterMap id
  let columnText := if columns.isEmpty then "" else " AS " ++ namesText columns
  return some [.text (if outer then " LATERAL VIEW OUTER " else " LATERAL VIEW "), .expr e,
    .text (" " ++ Name.spelling name ++ columnText)]

/-! Grouping. -/

def tupleOf (es : List Expr) : List Piece := inPieceParens (exprPieces es)

def exprTuple (g : Grammar) : Parser (List Expr) :=
  parenthesized (commaSeparated0 g.expr .rParen)

/-- A tuple in parentheses, or one expression that stands for a tuple of its own. -/
def looseTuple (g : Grammar) : Parser (List Expr) := do
  if ← atSymbol .lParen then exprTuple g else return [← g.expr]

def liftedTuple : List Expr → List Piece
  | [e] => pieceOf e
  | es => tupleOf es

def groupingExpr (g : Grammar) : Parser Expr := do
  if !(← isAny [.postgres, .generic]) then return ← g.expr
  if ← keywords ["GROUPING", "SETS"] then
    let sets ← parenthesized (commaSeparated (exprTuple g))
    return .form (.text "GROUPING SETS (" :: commaPieces (sets.map tupleOf) ++ text ")")
  match ← oneOf? ["CUBE", "ROLLUP"] with
  | some key =>
    let sets ← parenthesized (commaSeparated (looseTuple g))
    return .form (.text (key ++ " (") :: commaPieces (sets.map liftedTuple) ++ text ")")
  | none =>
    if ← symbols [.lParen, .rParen] then return .form (text "()")
    g.expr

def groupModifiers : Parser (List String) := do
  if (← dialect) != .generic then return []
  many do
    if ← keyword "WITH" then
      return some ("WITH " ++ (← expectOneOf ["ROLLUP", "CUBE", "TOTALS"]))
    else return none

structure Grouping where
  all : Bool := false
  keys : List Expr := []
  modifiers : List String := []

def groupClause (g : Grammar) : Parser Grouping := do
  if !(← keywords ["GROUP", "BY"]) then return {}
  let all ← keyword "ALL"
  let keys ← if all then pure [] else commaSeparated (groupingExpr g)
  return { all, keys, modifiers := ← groupModifiers }

def groupPieces (c : Grouping) : List Piece :=
  let modifiers := text (String.join (c.modifiers.map (" " ++ ·)))
  if c.all then .text " GROUP BY ALL" :: modifiers
  else if c.keys.isEmpty then []
  else .text " GROUP BY " :: exprPieces c.keys ++ modifiers

def exprsAfter (g : Grammar) (keys : List String) : Parser (List Piece) := do
  if ← keywords keys then
    return .text (" " ++ " ".intercalate keys ++ " ") :: exprPieces (← commaSeparated g.expr)
  else return []

/-! Windows, and the hierarchy of rows. -/

def namedWindow (g : Grammar) : Parser (List Piece) := do
  let name ← identifier
  expectKeyword "AS"
  if ← symbol .lParen then
    return .text (name.spelling ++ " AS ") :: inPieceParens (← windowSpec g (intervalExpr g))
  else if (← dialect) == .generic then
    return text (name.spelling ++ " AS " ++ (← identifier).spelling)
  else expectedHere "("

def windowClause (g : Grammar) : Parser (List Piece) := do
  if ← keyword "WINDOW" then
    return .text " WINDOW " :: commaPieces (← commaSeparated (namedWindow g))
  else return []

def qualifyClause (g : Grammar) : Parser (List Piece) := do
  if ← keyword "QUALIFY" then return [.text " QUALIFY ", .expr (← g.expr)] else return []

def windowsAndQualify (g : Grammar) : Parser (List Piece) := do
  if ← atKeyword "WINDOW" then
    let windows ← windowClause g
    return windows ++ (← qualifyClause g)
  else
    let qualify ← qualifyClause g
    if qualify.isEmpty then return [] else return qualify ++ (← windowClause g)

def parentRows (g : Grammar) : Parser (List Expr) :=
  withReader (fun s => { s with hierarchical := true }) (commaSeparated g.expr)

def connectClause (g : Grammar) : Parser (List Piece) := do
  if (← dialect) != .generic then return []
  if !(["START", "CONNECT"].contains (← peekKey)) then return []
  let (start, relation) ←
    if ← keywords ["CONNECT", "BY"] then
      let relation ← parentRows g
      expectKeywords ["START", "WITH"]
      let start ← g.expr
      pure (start, relation)
    else
      expectKeywords ["START", "WITH"]
      let start ← g.expr
      expectKeywords ["CONNECT", "BY"]
      let relation ← parentRows g
      pure (start, relation)
  return [.text " START WITH ", .expr start, .text " CONNECT BY "] ++ exprPieces relation

def optionalExpr (g : Grammar) (key : String) : Parser (Option Expr) := do
  if ← keyword key then return some (← g.expr) else return none

def select (g : Grammar) : Parser Select := do
  let distinct ← distinctClause g
  let top ← topClause g
  let items ← commaSeparated (selectItem g)
  let into ← intoClause
  let tables ← if ← keyword "FROM" then commaSeparated (tableWithJoins g) else pure []
  let views := (← many (lateralView g)).flatten
  let prewhere ←
    if ← both (isAny [.generic]) (keyword "PREWHERE") then
      pure [.text " PREWHERE ", .expr (← g.expr)]
    else pure []
  let condition ← optionalExpr g "WHERE"
  let grouping ← groupClause g
  let cluster ← exprsAfter g ["CLUSTER", "BY"]
  let distribute ← exprsAfter g ["DISTRIBUTE", "BY"]
  let sort ← exprsAfter g ["SORT", "BY"]
  let having ← optionalExpr g "HAVING"
  let windows ← windowsAndQualify g
  let connect ← connectClause g
  return { top, topFirst := false, distinct, items, into, tables, views := views ++ prewhere,
           condition, groupAll := grouping.all, groupBy := grouping.keys,
           groupModifiers := grouping.modifiers, sorting := cluster ++ distribute ++ sort, having,
           tail := windows ++ connect }

end RowFence.Sql.Parser
