import RowFence.Database.Reading.Expr

/-! Readers of queries, and the readers that all parts of a statement share. -/

namespace RowFence.Database.Reading

def item (g : Grammar) : Reading Item := do
  if ← symbol "*" then return .all
  if (← atSymbolAfter 1 ".") && (← atSymbolAfter 2 "*") then
    let table ← name
    skip
    skip
    return .allOf table
  let (e, spelling) ← spelled (anyExpr g)
  return .expr e (← alias?) spelling

def items (g : Grammar) : Reading (List Item) := commas (item g)

def isJoinKind (keys : List String) : Bool :=
  let inner := keys.any fun k => k == "INNER" || k == "CROSS"
  let sided := keys.any fun k => k == "LEFT" || k == "RIGHT" || k == "FULL"
  let outer := keys.contains "OUTER"
  keys.all joinWords.contains && !(inner && (sided || outer)) && !(outer && !sided)

/-- How the next source is joined, if there is a next one, and whether by the columns of the same
names. -/
def joinKind? : Reading (Option Bool) := do
  if ← symbol "," then return some false
  if ← word "JOIN" then return some false
  let first ← peekKey
  if !joinWords.contains first then return none
  skip
  let others ← many do
    if (← peekKey) == "JOIN" then return none
    return some (upper (← name))
  needWord "JOIN"
  let keys := first :: others
  if 3 < keys.length || !isJoinKind keys then fail
  return some (keys.contains "NATURAL")

def indexChoice : Reading (Option String) := do
  if ← words ["INDEXED", "BY"] then return some (← name)
  let _ ← words ["NOT", "INDEXED"]
  return none

def namedSource (g : Grammar) : Reading Source := do
  let path ← path
  if ← atSymbol "(" then
    let arguments ← inParens (exprsOrNone g)
    return .table path (some arguments) (← alias?) none
  let given? ← alias?
  return .table path none given? (← indexChoice)

def source (g : Grammar) : Reading Source := do
  if !(← symbol "(") then return ← namedSource g
  if startsQuery (← peekKey) then
    let q ← g.query
    need ")"
    return .query q (← alias?)
  let inner ← g.sources
  need ")"
  return .group inner (← alias?)

def joinedSource (g : Grammar) (isNatural : Bool) : Reading Joined := do
  let source ← source g
  let condition ← conditionAfter g "ON"
  let isShared ← if condition.isEmpty then word "USING" else pure false
  let shared ← if isShared then namesInParens else pure []
  if isNatural && !(condition.isEmpty && shared.isEmpty) then fail
  return ⟨isNatural, source, condition, shared⟩

def sourceList (g : Grammar) : Reading (List Joined) := do
  let first ← source g
  if ["ON", "USING"].contains (← peekKey) then fail
  let others ← many do
    match ← joinKind? with
    | some isNatural => some <$> joinedSource g isNatural
    | none => return none
  return ⟨false, first, [], []⟩ :: others

def namedWindow (g : Grammar) : Reading NamedWindow := do
  let name ← name
  needWord "AS"
  return ⟨name, ← inParens (window g)⟩

def selectArm (g : Grammar) : Reading Arm := do
  let _ ← oneOf ["DISTINCT", "ALL"]
  let items ← items g
  let sources ← if ← word "FROM" then sourceList g else pure []
  let condition ← conditionAfter g "WHERE"
  let groupBy ← if ← words ["GROUP", "BY"] then exprs g else pure []
  let having ← conditionAfter g "HAVING"
  let windows ← if ← atWindows then skip *> commas (namedWindow g) else pure []
  return .select items sources condition groupBy having windows

def arm (g : Grammar) : Reading Arm := do
  if ← word "SELECT" then selectArm g
  else
    needWord "VALUES"
    return .rows (← commas (inParens (exprs g)))

def nextArm? (g : Grammar) : Reading (Option Arm) := do
  if ← word "UNION" then
    let _ ← word "ALL"
    return some (← arm g)
  if ← oneOf ["EXCEPT", "INTERSECT"] then return some (← arm g)
  return none

def isRows : Arm → Bool
  | .rows _ => true
  | .select .. => false

def limitClause (g : Grammar) : Reading (List Expr) := do
  if !(← word "LIMIT") then return []
  let first ← anyExpr g
  if ← word "OFFSET" then return [first, ← anyExpr g]
  if ← symbol "," then return [← anyExpr g, first]
  return [first]

def cte (g : Grammar) : Reading Cte := do
  let name ← name
  let columns ← if ← atSymbol "(" then namesInParens else pure []
  needWord "AS"
  if ← word "NOT" then needWord "MATERIALIZED"
  else
    let _ ← word "MATERIALIZED"
  return ⟨name, columns, ← inParens g.query⟩

def withClause (g : Grammar) : Reading (List Cte) := do
  if !(← word "WITH") then return []
  let _ ← word "RECURSIVE"
  commas (cte g)

def queryAfter (g : Grammar) (ctes : List Cte) : Reading Query := do
  let first ← arm g
  let arms := first :: (← many (nextArm? g))
  if arms.getLast?.any isRows then return ⟨ctes, arms, [], []⟩
  let orderBy ← if ← words ["ORDER", "BY"] then commas (orderTerm g) else pure []
  return ⟨ctes, arms, orderBy, ← limitClause g⟩

def fullQuery (g : Grammar) : Reading Query := do queryAfter g (← withClause g)

def grammar : (depth : Nat) → Grammar
  | 0 => ⟨fun _ => fail, fail, fail⟩
  | depth + 1 =>
    let inner := grammar depth
    ⟨exprFrom inner, fullQuery inner, sourceList inner⟩

end RowFence.Database.Reading
