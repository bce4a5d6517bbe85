import RowFence.Sql.Parser.Special

/-! Expressions: operands, and the operators that continue them. -/

namespace RowFence.Sql.Parser

def compound (g : Grammar) (interval : Parser Expr) (first : Ident) : Parser Expr := do
  let d ← dialect
  let parts ← many do
    if ← symbol .period then
      let found ← next
      match found.token with
      | .word w => return some (Ident.ofWord w)
      | .string .single s => return some ⟨s, some '\''⟩
      | .symbol .mul =>
        if d == .postgres then
          back
          back
          return none
        else expected "an identifier after '.'" found
      | _ => expected "an identifier or a '*' after '.'" found
    else return none
  let name := first :: parts
  if ← symbols [.period, .mul] then return .form (text (Name.spelling name ++ ".*"))
  if ← atSymbol .lParen then functionCall g interval name
  else return .name name

def timeFunction (g : Grammar) (name : Ident) : Parser Expr := do
  if ← symbol .lParen then
    let (arguments, _) ← argumentList g
    return .call [name] (inPieceParens arguments)
  else return .call [name] []

def notExpr (g : Grammar) : Parser Expr := do
  if ← keyword "EXISTS" then existsExpr g true
  else return .form [.text "NOT ", .expr (← g.subexpr (← strength .not))]

def introducedString (introducer : String) : Parser Expr := do
  return .value (introducer ++ " " ++ (← value))

def wordExpr (g : Grammar) (interval : Parser Expr) (w : Word) (place : Position) : Parser Expr := do
  let d ← dialect
  let name := Ident.ofWord w
  let following ← peekToken
  match w.key with
  | "TRUE" | "FALSE" | "NULL" =>
    back
    return .value (← value)
  | "CASE" => caseExpr g
  | "CONVERT" => convertExpr g w.key
  | "CAST" | "TRY_CAST" | "SAFE_CAST" => castExpr g w.key
  | "EXISTS" => existsExpr g false
  | "EXTRACT" => extractExpr g
  | "CEIL" | "FLOOR" => roundExpr g w.key
  | "SUBSTRING" => substringExpr g
  | "OVERLAY" => overlayExpr g
  | "TRIM" => trimExpr g
  | "INTERVAL" => interval
  | "NOT" => notExpr g
  | "CURRENT_TIMESTAMP" | "CURRENT_TIME" | "CURRENT_DATE" | "LOCALTIME" | "LOCALTIMESTAMP" =>
    timeFunction g name
  | key =>
    if ["CURRENT_CATALOG", "CURRENT_USER", "SESSION_USER", "USER"].contains key
        && (d == .postgres || d == .generic) then
      return .call [name] []
    if key == "POSITION" && following == .symbol .lParen then
      match ← positionExpr? g with
      | some e => return e
      | none => return ← functionCall g interval [name]
    if key == "ARRAY" && following == .symbol .lBracket then
      skip
      return ← arrayExpr g "ARRAY"
    if key == "ARRAY" && following == .symbol .lParen then
      let q ← parenthesized g.query
      return .call [name] [.text "(", .query q, .text ")"]
    if key == "MATCH" && (d == .mysql || d == .generic) then return ← matchAgainst
    if key == "TRY_CONVERT" && d == .generic then return ← convertExpr g key
    if key == "STRUCT" && d == .generic then return ← structExpr g place
    if key == "PRIOR" && (← read).hierarchical then
      return .form [.text "PRIOR ", .expr (← g.subexpr (← strength .add))]
    if key == "MAP" && following == .symbol .lBrace && d == .generic then return ← mapExpr g
    match following with
    | .symbol .lParen | .symbol .period => compound g interval name
    | .string .single _ | .string .double _ | .string .hex _ =>
      if w.value.startsWith "_" then introducedString w.value else return .name [name]
    | _ => return .name [name]

def parenExpr (g : Grammar) : Parser Expr := do
  let e ←
    if ← atQuery then pure (.form [.text "(", .query (← g.query), .text ")"])
    else
      match ← commaSeparated g.expr with
      | [e] => pure (.nested e)
      | es => pure (.form (.text "(" :: exprPieces es ++ text ")"))
  expectSymbol .rParen
  if ← symbol .period then
    let found ← next
    match found.token with
    | .word w => return .form [.expr e, .text ("." ++ (Ident.ofWord w).spelling)]
    | _ => refuse ("Expected identifier, found: " ++ found.token.text) found.place
  else return e

def extensionPrefixes : List Symbol :=
  [.doubleExclamationMark, .pgSquareRoot, .pgCubeRoot, .atSign, .tilde]

def literalExpr : Parser Expr := do
  back
  return .value (← value)

def tokenExpr (g : Grammar) (interval : Parser Expr) (found : PlacedToken) : Parser Expr := do
  let d ← dialect
  match found.token with
  | .word w => wordExpr g interval w found.place
  | .symbol .lBracket => arrayExpr g ""
  | .symbol .minus => return .form [.text "-", .expr (← g.subexpr (← strength .multiply))]
  | .symbol .plus => return .form [.text "+", .expr (← g.subexpr (← strength .multiply))]
  | .string .escaped _ =>
    if d == .postgres || d == .generic then literalExpr else expected "an expression" found
  | .number _ _ | .string _ _ | .dollarString _ _ | .parameter _ | .symbol .colon => literalExpr
  | .symbol .lParen => parenExpr g
  | .symbol .lBrace =>
    if d == .generic then dictionaryExpr g else expected "an expression" found
  | .symbol s =>
    if d == .postgres && extensionPrefixes.contains s then
      return .form [.text s.spelling, .expr (← g.subexpr (← strength .add))]
    else if s == .atSign then literalExpr
    else expected "an expression" found
  | _ => expected "an expression" found

def typedLiteral (g : Grammar) (interval : Parser Expr) : Parser Expr := do
  let t ← dataType g
  match t.kind with
  | .interval => interval
  | .custom _ => refuse "no literal" .ending
  | .builtin => return .form (t.pieces ++ text (" " ++ Literal.single (← literalString)))

/-- An operand. The value of an interval is an operand too, which bounds the recursion by the
number of tokens. -/
def operandWithin (g : Grammar) : (depth : Nat) → Parser Expr
  | 0 => fail .tooDeep
  | depth + 1 => do
    let interval :=
      interval (do if ← intervalNeedsUnit then g.expr else operandWithin g depth)
    match ← maybe? (typedLiteral g interval) with
    | some e => return e
    | none =>
      let e ← tokenExpr g interval (← next)
      if ← keyword "COLLATE" then
        return .form [.expr e, .text (" COLLATE " ++ (← objectName).spelling)]
      else return e

def operand (g : Grammar) : Parser Expr := do operandWithin g ((← read).tokens.size + 1)

def intervalExpr (g : Grammar) : Parser Expr :=
  interval (do if ← intervalNeedsUnit then g.expr else operand g)

def call (g : Grammar) (name : Name) : Parser Expr := functionCall g (intervalExpr g) name

def plainOperators : List Symbol :=
  [.spaceship, .gt, .gtEq, .lt, .ltEq, .plus, .minus, .mul, .mod, .pipe, .caret, .ampersand, .div,
    .tilde, .tildeAsterisk, .exclamationMarkTilde, .exclamationMarkTildeAsterisk, .doubleTilde,
    .doubleTildeAsterisk, .exclamationMarkDoubleTilde, .exclamationMarkDoubleTildeAsterisk,
    .arrow, .longArrow, .hashArrow, .hashLongArrow, .atArrow, .arrowAt, .hashMinus, .atQuestion,
    .atAt, .question, .questionAnd, .questionPipe, .neq]

def binaryOp? (found : PlacedToken) : Parser (Option BinaryOp) := do
  let d ← dialect
  match found.token with
  | .symbol .doubleEq | .symbol .eq => return some .eq
  | .symbol .stringConcat => return some .concat
  | .symbol s =>
    if plainOperators.contains s then return some (.other s.spelling)
    let dialects : List Dialect := match s with
      | .duckIntDiv => [.generic]
      | .shiftLeft | .shiftRight | .overlap | .caretAt => [.postgres, .generic]
      | .sharp => [.postgres]
      | _ => []
    return if dialects.contains d then some (.other s.spelling) else none
  | .operator s => return some (.other s)
  | .word w =>
    match w.key with
    | "AND" => return some .and
    | "OR" => return some .or
    | "XOR" => return some .xor
    | "OPERATOR" =>
      if d == .postgres || d == .generic then
        expectSymbol .lParen
        let parts ← separated (symbol .period) (do return (← next).token.text)
        expectSymbol .rParen
        return some (.other ("OPERATOR(" ++ ".".intercalate parts ++ ")"))
      else return none
    | _ => return none
  | _ => return none

def tokenTitle : Token → String
  | .word w =>
    "Word(Word \x7b value: \"" ++ w.value ++ "\", quote_style: None, keyword: " ++ w.key ++ " \x7d)"
  | .symbol s => s.title
  | t => t.text

def noInfix {α : Type} (found : PlacedToken) : Parser α :=
  refuse ("No infix parser for token " ++ tokenTitle found.token) found.place

def quantified (g : Grammar) (left : Expr) (op : BinaryOp) (strength : Nat) (place : Position)
    (quantifier : String) : Parser Expr := do
  expectSymbol .lParen
  let right ←
    if ← atQuery then
      back
      g.subexpr strength
    else
      let e ← g.subexpr strength
      expectSymbol .rParen
      pure e
  if !(["=", "<>", "<", "<=", ">", ">="].contains op.spelling) then
    refuse ("Expected one of [=, >, <, =>, =<, !=] as comparison operator, found: " ++ op.spelling)
      place
  match right with
  | .form [.text "(", .query _, .text ")"] =>
    return .form [.expr left, .text (" " ++ op.spelling ++ " " ++ quantifier), .expr right]
  | _ =>
    return .form [.expr left, .text (" " ++ op.spelling ++ " " ++ quantifier ++ "("), .expr right,
      .text ")"]

def isTests : List (List String) :=
  [["NULL"], ["NOT", "NULL"], ["TRUE"], ["NOT", "TRUE"], ["FALSE"], ["NOT", "FALSE"],
    ["UNKNOWN"], ["NOT", "UNKNOWN"]]

def isExpr (g : Grammar) (left : Expr) : Parser Expr := do
  match ← firstKeywords isTests with
  | some keys => return .form [.expr left, .text (" IS " ++ " ".intercalate keys)]
  | none =>
    if ← keywords ["DISTINCT", "FROM"] then
      return .form [.expr left, .text " IS DISTINCT FROM ", .expr (← g.expr)]
    else if ← keywords ["NOT", "DISTINCT", "FROM"] then
      return .form [.expr left, .text " IS NOT DISTINCT FROM ", .expr (← g.expr)]
    else expectedHere "[NOT] NULL or TRUE|FALSE or [NOT] DISTINCT FROM after IS"

def inExpr (g : Grammar) (left : Expr) (negation : String) : Parser Expr := do
  let start := [.expr left, .text (" " ++ negation ++ "IN ")]
  if ← keyword "UNNEST" then
    let e ← parenthesized g.expr
    return .form (start ++ [.text "UNNEST(", .expr e, .text ")"])
  expectSymbol .lParen
  let items ←
    if ← atQuery then pure [.query (← g.query)]
    else
      exprPieces <$>
        if (← dialect) == .sqlite then commaSeparated0 g.expr .rParen else commaSeparated g.expr
  expectSymbol .rParen
  return .form (start ++ inPieceParens items)

def escapeClause : Parser String := do
  if ← keyword "ESCAPE" then return " ESCAPE '" ++ (← literalString) ++ "'" else return ""

def likeExpr (g : Grammar) (left : Expr) (word : String) (any : Bool) : Parser Expr := do
  let any ← if ← both (pure any) (keyword "ANY") then pure "ANY " else pure ""
  let pattern ← g.subexpr (← strength .like)
  let escape ← escapeClause
  return .form [.expr left, .text (" " ++ word ++ " " ++ any), .expr pattern, .text escape]

def testExpr (g : Grammar) (left : Expr) : Parser Expr := do
  let negation := if ← keyword "NOT" then "NOT " else ""
  let regexp ← keyword "REGEXP"
  let rlike ← keyword "RLIKE"
  if regexp || rlike then
    return .form [.expr left, .text (" " ++ negation ++ (if regexp then "REGEXP " else "RLIKE ")),
      .expr (← g.subexpr (← strength .like))]
  else if ← keyword "IN" then inExpr g left negation
  else if ← keyword "BETWEEN" then
    let low ← g.subexpr (← strength .between)
    expectKeyword "AND"
    let high ← g.subexpr (← strength .between)
    return .form [.expr left, .text (" " ++ negation ++ "BETWEEN "), .expr low, .text " AND ",
      .expr high]
  else if ← keyword "LIKE" then likeExpr g left (negation ++ "LIKE") true
  else if ← keyword "ILIKE" then likeExpr g left (negation ++ "ILIKE") true
  else if ← keywords ["SIMILAR", "TO"] then likeExpr g left (negation ++ "SIMILAR TO") false
  else expectedHere "IN or BETWEEN after NOT"

def subscript (g : Grammar) : Parser (List Piece) := do
  let lower ← if ← symbol .colon then pure none else some <$> g.expr
  let start := lower.toList.flatMap pieceOf
  if ← symbol .rBracket then return if lower.isSome then start else text ":"
  if lower.isSome then expectSymbol .colon
  if ← symbol .rBracket then return start ++ text ":"
  let upper ← g.expr
  let range := start ++ .text ":" :: pieceOf upper
  if ← symbol .rBracket then return range
  expectSymbol .colon
  if ← symbol .rBracket then return range
  let stride ← g.expr
  expectSymbol .rBracket
  return range ++ .text ":" :: pieceOf stride

def mapKeys (g : Grammar) : Parser (List Piece) := do
  let key : Parser (List Piece) := do
    let e ← g.expr
    expectSymbol .rBracket
    return [.text "[", .expr e, .text "]"]
  return (← separated (symbol .lBracket) key).flatten

def continued (g : Grammar) (left : Expr) (strength : Nat) : Parser Expr := do
  let d ← dialect
  if ← both (pure (d == .mysql)) (keyword "DIV") then return .binary left (.other "DIV") (← g.expr)
  let found ← next
  if let some op ← binaryOp? found then
    match ← oneOf? ["ANY", "ALL", "SOME"] with
    | some quantifier => quantified g left op strength found.place quantifier
    | none => return .binary left op (← g.subexpr strength)
  else
    match found.token with
    | .word w =>
      match w.key with
      | "IS" => isExpr g left
      | "AT" =>
        expectKeywords ["TIME", "ZONE"]
        return .form [.expr left, .text " AT TIME ZONE ", .expr (← g.subexpr strength)]
      | key =>
        if ["NOT", "IN", "BETWEEN", "LIKE", "ILIKE", "SIMILAR", "REGEXP", "RLIKE"].contains key then
          back
          testExpr g left
        else noInfix found
    | .symbol .doubleColon => return .form ([.expr left, .text "::"] ++ (← dataType g).pieces)
    | .symbol .exclamationMark => return .form [.expr left, .text "!"]
    | .symbol .lBracket =>
      if d == .postgres || d == .generic then
        return .form (.expr left :: .text "[" :: (← subscript g) ++ text "]")
      else return .form (.expr left :: (← mapKeys g))
    | _ => noInfix found

/-- Continues an expression while operators bind tighter than its surroundings. Every operator
takes a token, which bounds their number. -/
def continuedWhile (g : Grammar) (surroundings : Nat) : (bound : Nat) → Expr → Parser Expr
  | 0, left => return left
  | bound + 1, left => do
    let strength ← nextStrength
    if surroundings ≥ strength then return left
    continuedWhile g surroundings bound (← continued g left strength)

def subexpr (g : Grammar) (surroundings : Nat) : Parser Expr := do
  let first ← operand g
  continuedWhile g surroundings ((← read).tokens.size + 1) first

end RowFence.Sql.Parser
