import RowFence.Database.Reading.Schema

/-! The reader of statements, and how a text is taken apart into statements. -/

namespace RowFence.Database

namespace Reading

def transactionName : Reading Unit := do
  if ← word "TRANSACTION" then
    let _ ← nameWhere (!reserved.contains ·) true

def rollback : Reading Statement := do
  transactionName
  if !(← word "TO") then return .rollback
  let _ ← word "SAVEPOINT"
  return .rollbackTo (← name)

def begin : Reading Statement := do
  let _ ← oneOf ["DEFERRED", "IMMEDIATE", "EXCLUSIVE"]
  transactionName
  return .begin

def commit : Reading Statement := do
  transactionName
  return .commit

def release : Reading Statement := do
  let _ ← word "SAVEPOINT"
  return .release (← name)

def vacuum (g : Grammar) : Reading Statement := do
  let schema? ← nameWhere (!reserved.contains ·) true
  let _ ← conditionAfter g "INTO"
  return .vacuum schema?

def path? : Reading (Option Path) := do
  if isEnd (← peek) then return none else some <$> path

def pragmaValue : Reading Unit := do
  if !(← symbol "+") then
    let _ ← symbol "-"
  match ← peek with
  | .integer _ | .constant => skip
  | _ =>
    if !(← oneOf ["ON", "DELETE", "DEFAULT"]) then
      let _ ← name

def pragma : Reading Statement := do
  let path ← path
  if ← symbol "=" then
    pragmaValue
    return .pragma path true
  if ← atSymbol "(" then
    inParens pragmaValue
    return .pragma path true
  return .pragma path false

def schemaName (g : Grammar) : Reading String := do
  let token ← peek
  let _ ← anyExpr g
  return textOf token

def attach (g : Grammar) : Reading Statement := do
  let _ ← word "DATABASE"
  let _ ← anyExpr g
  needWord "AS"
  let schema ← schemaName g
  let _ ← conditionAfter g "KEY"
  return .attach schema

def detach (g : Grammar) : Reading Statement := do
  let _ ← word "DATABASE"
  return .detach (← schemaName g)

def plainStatement (g : Grammar) : Reading Statement := do
  let key ← peekKey
  if ["WITH", "SELECT", "VALUES", "INSERT", "REPLACE", "UPDATE", "DELETE"].contains key then
    return ← queryOrChange g
  skip
  match key with
  | "CREATE" => create g
  | "DROP" => drop
  | "ALTER" => alter g
  | "BEGIN" => begin
  | "COMMIT" | "END" => commit
  | "ROLLBACK" => rollback
  | "SAVEPOINT" => return .savepoint (← name)
  | "RELEASE" => release
  | "VACUUM" => vacuum g
  | "ANALYZE" => return .analyze (← path?)
  | "REINDEX" => return .reindex (← path?)
  | "PRAGMA" => pragma
  | "ATTACH" => attach g
  | "DETACH" => detach g
  | _ => fail

def statement (g : Grammar) : Reading Statement := do
  if ← word "EXPLAIN" then
    let _ ← words ["QUERY", "PLAN"]
    return .explain (← plainStatement g)
  plainStatement g

def ended (g : Grammar) : Reading Statement := do
  let s ← statement g
  if isEnd (← peek) then
    skip
    return s
  else fail

end Reading

structure Written where
  statement? : Option Statement
  /-- With `NULL` for each parameter, as long as it has no value. -/
  text : String
  length : Nat
  hasParameters : Bool

def between (text : List Char) (start stop : Nat) : String :=
  .ofList ((text.drop start).take (stop - start))

def filledBetween (text : List Char) (start stop : Nat) : List PlacedToken → String
  | [] => between text start stop
  | t :: ts =>
    if t.token = .parameter then
      between text start t.start ++ "NULL" ++ filledBetween text t.stop stop ts
    else filledBetween text start stop ts

def writtenFrom (text : List Char) (start : Nat) (tokens : List PlacedToken) :
    Written × List PlacedToken :=
  let body := tokens.dropWhile (·.token = .symbol ";")
  match (Reading.ended (Reading.grammar (body.length + 1)) text).run body with
  | none => (⟨none, "", 0, false⟩, [])
  | some (s, rest) =>
    let taken := body.take (body.length - rest.length)
    let stop := match taken.getLast? with
      | some ⟨.symbol ";", _, stop⟩ => stop
      | _ => text.length
    let hasParameters := taken.any (·.token = .parameter)
    (⟨some s, filledBetween text start stop taken, stop - start, hasParameters⟩, rest)

/-- The statements of a text one by one, each from where the one before ends. Nothing follows what
is no statement. -/
def writtenAll (text : List Char) : (bound start : Nat) → List PlacedToken → List Written
  | 0, _, _ => []
  | bound + 1, start, tokens =>
    if tokens.all (·.token = .symbol ";") then []
    else
      let (w, rest) := writtenFrom text start tokens
      w :: writtenAll text bound (start + w.length) rest

def statements (text : String) : List Written :=
  let found := tokens text.toList
  writtenAll text.toList (found.length + 1) 0 found

end RowFence.Database
