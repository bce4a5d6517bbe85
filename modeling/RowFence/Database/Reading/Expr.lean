import RowFence.Database.Reading
import RowFence.Database.Syntax

/-! Readers of expressions. The operators bind from `OR` to the signs in twelve levels. -/

namespace RowFence.Database

structure Grammar where
  /-- An expression whose operators are of a level or above. -/
  expr : (level : Nat) → Reading Expr
  query : Reading Query
  sources : Reading (List Joined)

namespace Reading

def anyExpr (g : Grammar) : Reading Expr := g.expr 1

def exprs (g : Grammar) : Reading (List Expr) := commas (anyExpr g)

def exprsOrNone (g : Grammar) : Reading (List Expr) := do
  if ← atSymbol ")" then return [] else exprs g

def startsQuery (key : String) : Bool := key == "SELECT" || key == "VALUES" || key == "WITH"

def path : Reading Path := do
  let first ← name
  if ← symbol "." then return ⟨some first, ← name⟩ else return ⟨none, first⟩

def orderTerm (g : Grammar) : Reading OrderTerm := do
  let (key, spelling) ← spelled (anyExpr g)
  let _ ← oneOf ["ASC", "DESC"]
  if (← peekKey) == "NULLS" then
    skip
    needOneOf ["FIRST", "LAST"]
  return ⟨key, spelling⟩

def orderKeys (g : Grammar) : Reading (List Expr) :=
  return (← commas (orderTerm g)).map (·.key)

def conditionAfter (g : Grammar) (key : String) : Reading (List Expr) := do
  if ← word key then return [← anyExpr g] else return []

def frameBound (g : Grammar) (outward : String) : Reading (List Expr) := do
  if ← words ["CURRENT", "ROW"] then return []
  if ← words ["UNBOUNDED", outward] then return []
  let bound ← anyExpr g
  needOneOf ["PRECEDING", "FOLLOWING"]
  return [bound]

def frame (g : Grammar) : Reading (List Expr) := do
  if !(← oneOf ["RANGE", "ROWS", "GROUPS"]) then return []
  let bounds ←
    if ← word "BETWEEN" then
      let low ← frameBound g "PRECEDING"
      needWord "AND"
      pure (low ++ (← frameBound g "FOLLOWING"))
    else frameBound g "PRECEDING"
  if ← word "EXCLUDE" then
    if !(← words ["NO", "OTHERS"]) then
      if !(← words ["CURRENT", "ROW"]) then needOneOf ["GROUP", "TIES"]
  return bounds

def windowParts : List String := ["PARTITION", "ORDER", "RANGE", "ROWS", "GROUPS"]

def window (g : Grammar) : Reading Window := do
  let hasBase := !windowParts.contains (← peekKey) && !(← atSymbol ")")
  let base? ← if hasBase then some <$> name else pure none
  let partition ← if ← words ["PARTITION", "BY"] then exprs g else pure []
  let order ← if ← words ["ORDER", "BY"] then orderKeys g else pure []
  return .given base? (partition ++ order ++ (← frame g))

def filterClause (g : Grammar) : Reading (List Expr) := do
  if (← peekKey) == "FILTER" then
    if ← atSymbolAfter 1 "(" then
      skip
      return ← inParens do
        needWord "WHERE"
        return [← anyExpr g]
  return []

def overClause? (g : Grammar) : Reading (Option Window) := do
  if (← peekKey) != "OVER" then return none
  if ← atSymbolAfter 1 "(" then
    skip
    return some (← inParens (window g))
  match ← peekAt 1 with
  | .word text =>
    if reserved.contains (upper text) then return none
    skip
    return some (.named (← name))
  | .quoted .. | .string .. =>
    skip
    return some (.named (← name))
  | _ => return none

def callRest (g : Grammar) (function : String) : Reading Expr := do
  let (distinct, arguments, order) ←
    if ← symbol "*" then pure (false, [], [])
    else
      let distinct := (← peekKey) == "DISTINCT"
      let _ ← oneOf ["DISTINCT", "ALL"]
      let arguments ← if (← peekKey) == "ORDER" then pure [] else exprsOrNone g
      let order ← if ← words ["ORDER", "BY"] then orderKeys g else pure []
      pure (distinct, arguments, order)
  need ")"
  let filter ← filterClause g
  return .call function distinct arguments order filter (← overClause? g)

def typeName : Reading (List String) := do
  let type ← many plainName?
  if !type.isEmpty then
    if ← symbol "(" then
      let _ ← commas signed
      need ")"
  return type
where
  signed : Reading Unit := do
    if !(← symbol "+") then
      let _ ← symbol "-"
    match ← peek with
    | .integer _ | .constant => skip
    | _ => fail

def cast (g : Grammar) : Reading Expr := inParens do
  let e ← anyExpr g
  needWord "AS"
  let _ ← typeName
  return .operator [e]

def whenThen (g : Grammar) : Reading (Option (Expr × Expr)) := do
  if !(← word "WHEN") then return none
  let condition ← anyExpr g
  needWord "THEN"
  return some (condition, ← anyExpr g)

def caseRest (g : Grammar) : Reading Expr := do
  let operand? ← if (← peekKey) == "WHEN" then pure none else some <$> anyExpr g
  let cases ← many (whenThen g)
  if cases.isEmpty then fail
  let others ← conditionAfter g "ELSE"
  needWord "END"
  let tests := match operand? with
    | some e => [.comparison (e :: cases.map (·.1))]
    | none => cases.map (·.1)
  return .operator (tests ++ cases.map (·.2) ++ others)

def stopRest (g : Grammar) : Reading Expr := inParens do
  if ← word "IGNORE" then return .stop []
  needOneOf ["ROLLBACK", "ABORT", "FAIL"]
  need ","
  return .stop [← anyExpr g]

def afterParen (g : Grammar) : Reading Expr := do
  if startsQuery (← peekKey) then
    let q ← g.query
    need ")"
    return .subquery q
  let parts ← exprs g
  need ")"
  match parts with
  | [e] => return e
  | parts => return .row parts

def named (g : Grammar) (first : Token) : Reading Expr := do
  let text := match first with
    | .word text | .quoted text _ | .string text => text
    | _ => ""
  let inDoubleQuotes := match first with
    | .quoted _ mark => mark = '"'
    | _ => false
  if ← symbol "." then
    let second ← name
    if ← symbol "." then return .columnOf ⟨some text, second⟩ (← name)
    return .columnOf ⟨none, text⟩ second
  if ← symbol "(" then callRest g text else return .column text inDoubleQuotes

def timeWords : List String := ["CURRENT_DATE", "CURRENT_TIME", "CURRENT_TIMESTAMP"]

def primaryAt (g : Grammar) (key : String) (text : String) : Reading Expr := do
  if key == "NULL" || timeWords.contains key then return .constant
  if key == "CAST" then return ← cast g
  if key == "CASE" then return ← caseRest g
  if key == "RAISE" then return ← stopRest g
  if key == "EXISTS" then return .exists (← inParens g.query)
  if reserved.contains key then fail else named g (.word text)

def primary (g : Grammar) : Reading Expr := do
  let first ← peek
  skip
  match first with
  | .constant | .parameter => return .constant
  | .integer value => return .integer value
  | .string _ => if ← atSymbol "." then named g first else return .constant
  | .quoted .. => named g first
  | .symbol "(" => afterParen g
  | .word text => primaryAt g (upper text) text
  | _ => fail

def operand (g : Grammar) : Reading Expr := do
  if ← word "NOT" then return .operator [← g.expr 3]
  if ← symbol "-" then return .negative (← g.expr 12)
  if ← symbol "+" then return .operator [← g.expr 12]
  if ← symbol "~" then return .operator [← g.expr 12]
  primary g

def symbolLevels : List (List String × Nat) := [
  (["=", "==", "<>", "!="], 4),
  (["<", "<=", ">", ">="], 5),
  (["&", "|", "<<", ">>"], 7),
  (["+", "-"], 8),
  (["*", "/", "%"], 9),
  (["||", "->", "->>"], 10)]

def levelOf? (s : String) : Option Nat :=
  (symbolLevels.find? fun (symbols, _) => symbols.contains s).map (·.2)

def likeWords : List String := ["LIKE", "GLOB", "REGEXP", "MATCH"]

def likeRest (g : Grammar) (left : Expr) (function : String) : Reading Expr := do
  let right ← g.expr 5
  let mark ← if ← word "ESCAPE" then (fun e => [e]) <$> g.expr 7 else pure []
  return .call function false ([right, left] ++ mark) [] [] none

def collection (g : Grammar) : Reading Collection := do
  if ← symbol "(" then
    if startsQuery (← peekKey) then
      let q ← g.query
      need ")"
      return .query q
    let es ← exprsOrNone g
    need ")"
    return .list es
  let path ← path
  if ← atSymbol "(" then return .table path (some (← inParens (exprsOrNone g)))
  return .table path none

def betweenRest (g : Grammar) (left : Expr) : Reading Expr := do
  let low ← g.expr 3
  needWord "AND"
  return .comparison [left, low, ← g.expr 5]

def testRest? (g : Grammar) (left : Expr) (key : String) : Reading (Option Expr) := do
  if likeWords.contains key then
    skip
    return some (← likeRest g left key)
  match key with
  | "BETWEEN" =>
    skip
    return some (← betweenRest g left)
  | "IN" =>
    skip
    return some (.member left (← collection g))
  | _ => return none

def wordRest? (g : Grammar) (level : Nat) (left : Expr) : Reading (Option Expr) := do
  let key ← peekKey
  if key == "COLLATE" then
    skip
    let _ ← plainName
    return some (.collated left)
  if level ≤ 1 && key == "OR" then
    skip
    return some (.operator [left, ← g.expr 2])
  if level ≤ 2 && key == "AND" then
    skip
    return some (.operator [left, ← g.expr 3])
  if 4 < level then return none
  match key with
  | "ISNULL" | "NOTNULL" =>
    skip
    return some (.operator [left])
  | "IS" =>
    skip
    let _ ← word "NOT"
    let _ ← words ["DISTINCT", "FROM"]
    return some (.comparison [left, ← g.expr 5])
  | "NOT" =>
    if (← peekKeyAt 1) == "NULL" then
      skip
      skip
      return some (.operator [left])
    skip
    match ← testRest? g left (← peekKey) with
    | some e => return some e
    | none => fail
  | _ => testRest? g left key

def operatorRest? (g : Grammar) (level : Nat) (left : Expr) : Reading (Option Expr) := do
  match ← peek with
  | .symbol s =>
    match levelOf? s with
    | some own =>
      if own < level then return none
      skip
      let parts := [left, ← g.expr (own + 1)]
      return some (if own ≤ 5 then .comparison parts else .operator parts)
    | none => return none
  | _ => wordRest? g level left

def operatorsFrom (g : Grammar) (level : Nat) : (bound : Nat) → Expr → Reading Expr
  | 0, left => return left
  | bound + 1, left => do
    match ← operatorRest? g level left with
    | some e => operatorsFrom g level bound e
    | none => return left

def exprFrom (g : Grammar) (level : Nat) : Reading Expr := do
  let left ← operand g
  operatorsFrom g level (← get).length left

end Reading

end RowFence.Database
