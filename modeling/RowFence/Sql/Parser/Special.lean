import RowFence.Sql.Parser.Call

/-! Expressions with a syntax of their own, each after its keyword. -/

namespace RowFence.Sql.Parser

def caseBranch (g : Grammar) : Parser (List Piece) := do
  let condition ← g.expr
  expectKeyword "THEN"
  let result ← g.expr
  return [.text " WHEN ", .expr condition, .text " THEN ", .expr result]

def caseExpr (g : Grammar) : Parser Expr := do
  let operand ←
    if ← keyword "WHEN" then pure []
    else
      let e ← g.expr
      expectKeyword "WHEN"
      pure [.text " ", .expr e]
  let branches ← separated (keyword "WHEN") (caseBranch g)
  let otherwise ← if ← keyword "ELSE" then pure [.text " ELSE ", .expr (← g.expr)] else pure []
  expectKeyword "END"
  return .form (text "CASE" ++ operand ++ branches.flatten ++ otherwise ++ text " END")

def convertExpr (g : Grammar) (name : String) : Parser Expr := do
  expectSymbol .lParen
  let e ← g.expr
  if ← keyword "USING" then
    let charset ← objectName
    expectSymbol .rParen
    return .form [.text (name ++ "("), .expr e, .text (" USING " ++ charset.spelling ++ ")")]
  expectSymbol .comma
  let t ← dataType g
  let charset ←
    if ← keywords ["CHARACTER", "SET"] then
      pure (" CHARACTER SET " ++ (← objectName).spelling)
    else pure ""
  expectSymbol .rParen
  return .form ([.text (name ++ "("), .expr e, .text ", "] ++ t.pieces ++ text (charset ++ ")"))

def castFormat : Parser String := do
  if ← keyword "FORMAT" then
    let format ← value
    if ← keywords ["AT", "TIME", "ZONE"] then
      return " FORMAT " ++ format ++ " AT TIME ZONE " ++ (← value)
    else return " FORMAT " ++ format
  else return ""

def castExpr (g : Grammar) (name : String) : Parser Expr := do
  expectSymbol .lParen
  let e ← g.expr
  expectKeyword "AS"
  let t ← dataType g
  let format ← castFormat
  expectSymbol .rParen
  return .form ([.text (name ++ "("), .expr e, .text " AS "] ++ t.pieces ++ text (format ++ ")"))

def existsExpr (g : Grammar) (negated : Bool) : Parser Expr := do
  let q ← parenthesized g.query
  return .form [.text (if negated then "NOT EXISTS (" else "EXISTS ("), .query q, .text ")"]

def extractExpr (g : Grammar) : Parser Expr := do
  expectSymbol .lParen
  let field ← timeField
  let separator ←
    if ← keyword "FROM" then pure " FROM "
    else
      let comma ← symbol .comma
      if comma && (← dialect) == .generic then pure ", "
      else refuse "Expected 'FROM' or ','" .ending
  let e ← g.expr
  expectSymbol .rParen
  return .form [.text ("EXTRACT(" ++ field ++ separator), .expr e, .text ")"]

def roundExpr (g : Grammar) (name : String) : Parser Expr := do
  expectSymbol .lParen
  let e ← g.expr
  let rest ←
    if ← keyword "TO" then pure (" TO " ++ (← timeField))
    else
      if ← symbol .comma then
        let found ← peek
        let spelling ← value
        match found.token with
        | .number _ _ => pure (", " ++ spelling)
        | _ => refuse "Scale field can only be of number type" .ending
      else pure ""
  expectSymbol .rParen
  return .form [.text (name ++ "("), .expr e, .text (rest ++ ")")]

def positionExpr? (g : Grammar) : Parser (Option Expr) := maybe? do
  expectSymbol .lParen
  let e ← g.subexpr (← strength .between)
  expectKeyword "IN"
  let within ← g.expr
  expectSymbol .rParen
  return .form [.text "POSITION(", .expr e, .text " IN ", .expr within, .text ")"]

def substringExpr (g : Grammar) : Parser Expr := do
  expectSymbol .lParen
  let e ← g.expr
  let commas ← symbol .comma
  let start ←
    if ← either (pure commas) (keyword "FROM") then
      pure [.text (if commas then ", " else " FROM "), .expr (← g.expr)]
    else pure []
  let length ←
    if ← either (keyword "FOR") (symbol .comma) then
      pure [.text (if commas then ", " else " FOR "), .expr (← g.expr)]
    else pure []
  expectSymbol .rParen
  return .form ([.text "SUBSTRING(", .expr e] ++ start ++ length ++ text ")")

def overlayExpr (g : Grammar) : Parser Expr := do
  expectSymbol .lParen
  let e ← g.expr
  expectKeyword "PLACING"
  let what ← g.expr
  expectKeyword "FROM"
  let start ← g.expr
  let length ← if ← keyword "FOR" then pure [.text " FOR ", .expr (← g.expr)] else pure []
  expectSymbol .rParen
  return .form ([.text "OVERLAY(", .expr e, .text " PLACING ", .expr what, .text " FROM ",
    .expr start] ++ length ++ text ")")

def trimExpr (g : Grammar) : Parser Expr := do
  expectSymbol .lParen
  let side ← match ← oneOf? ["BOTH", "LEADING", "TRAILING"] with
    | some key => pure (key ++ " ")
    | none => pure ""
  let e ← g.expr
  if ← keyword "FROM" then
    let whole ← g.expr
    expectSymbol .rParen
    return .form [.text ("TRIM(" ++ side), .expr e, .text " FROM ", .expr whole, .text ")"]
  let comma ← symbol .comma
  if comma && (← dialect) == .generic then
    let characters ← commaSeparated g.expr
    expectSymbol .rParen
    return .form ([.text "TRIM(", .expr e, .text ", "] ++ exprPieces characters ++ text ")")
  expectSymbol .rParen
  return .form [.text ("TRIM(" ++ side), .expr e, .text ")"]

def arrayExpr (g : Grammar) (name : String) : Parser Expr := do
  let items ← commaSeparated0 g.expr .rBracket
  expectSymbol .rBracket
  return .form (.text (name ++ "[") :: exprPieces items ++ text "]")

def matchModifier : Parser String := do
  if ← keywords ["IN", "NATURAL", "LANGUAGE", "MODE"] then
    if ← keywords ["WITH", "QUERY", "EXPANSION"] then
      return " IN NATURAL LANGUAGE MODE WITH QUERY EXPANSION"
    else return " IN NATURAL LANGUAGE MODE"
  else if ← keywords ["IN", "BOOLEAN", "MODE"] then return " IN BOOLEAN MODE"
  else if ← keywords ["WITH", "QUERY", "EXPANSION"] then return " WITH QUERY EXPANSION"
  else return ""

def matchAgainst : Parser Expr := do
  let columns ← columnNames false
  expectKeyword "AGAINST"
  expectSymbol .lParen
  let what ← value
  let modifier ← matchModifier
  expectSymbol .rParen
  return .form (text ("MATCH (" ++ namesText columns ++ ") AGAINST (" ++ what ++ modifier ++ ")"))

def structExpr (g : Grammar) (start : Position) : Parser Expr := do
  let typed ← symbol .lt
  let fields ←
    if typed then
      let bound := (← read).tokens.size
      let (fields, closed) ← structFields start (structField (dataTypeWithin g bound)) bound
      if closed then refuse "unmatched > in STRUCT literal" (← peek).place
      pure (.text "<" :: commaPieces fields ++ text ">")
    else pure []
  expectSymbol .lParen
  let values ← commaSeparated do
    let e ← g.expr
    let found ← peek
    if ← keyword "AS" then
      if typed then refuse "Typed syntax does not allow AS" found.place
      return .expr e :: text (" AS " ++ (← identifier).spelling)
    else return pieceOf e
  expectSymbol .rParen
  return .form (.text "STRUCT" :: fields ++ .text "(" :: commaPieces values ++ text ")")

def dictionaryExpr (g : Grammar) : Parser Expr := do
  let fields ← commaSeparated do
    let key ← identifier
    expectSymbol .colon
    return .text (key.spelling ++ ": ") :: pieceOf (← g.expr)
  expectSymbol .rBrace
  return .form (.text "\x7b" :: commaPieces fields ++ text "\x7d")

def mapExpr (g : Grammar) : Parser Expr := do
  expectSymbol .lBrace
  let entries ← commaSeparated0 (do
    let key ← g.expr
    expectSymbol .colon
    let e ← g.expr
    return [.expr key, .text ": ", .expr e]) .rBrace
  expectSymbol .rBrace
  return .form (.text "MAP \x7b" :: commaPieces entries ++ text "\x7d")

def atQuery : Parser Bool := return ["SELECT", "WITH"].contains (← peekKey)

end RowFence.Sql.Parser
