import RowFence.Database.Reading.Query

/-! Readers of statements that change rows. -/

namespace RowFence.Database.Reading

def failureWords : List String := ["ROLLBACK", "ABORT", "FAIL", "IGNORE", "REPLACE"]

def orClause : Reading Unit := do if ← word "OR" then needOneOf failureWords

def target : Reading Target := do
  let path ← path
  return ⟨path, ← if ← word "AS" then some <$> name else pure none, none⟩

def indexedTarget : Reading Target := do
  let target ← target
  return { target with index? := ← indexChoice }

def assignment (g : Grammar) : Reading Assignment := do
  let columns ← if ← atSymbol "(" then namesInParens else (fun n => [n]) <$> name
  need "="
  return ⟨columns, ← anyExpr g⟩

def assignments (g : Grammar) : Reading (List Assignment) := do
  needWord "SET"
  commas (assignment g)

def returning (g : Grammar) : Reading (List Item) := do
  if ← word "RETURNING" then items g else return []

def upsert? (g : Grammar) : Reading (Option Upsert) := do
  if !(← words ["ON", "CONFLICT"]) then return none
  let targets ← if ← atSymbol "(" then inParens (orderKeys g) else pure []
  let targetCondition ← if targets.isEmpty then pure [] else conditionAfter g "WHERE"
  needWord "DO"
  if ← word "NOTHING" then return some ⟨targets, targetCondition, [], []⟩
  needWord "UPDATE"
  let assignments ← assignments g
  return some ⟨targets, targetCondition, assignments, ← conditionAfter g "WHERE"⟩

/-- What is done about rows that are there already. Only the last of these has no target. -/
def upserts (g : Grammar) : Reading (List Upsert) := do
  let found ← many (upsert? g)
  if found.dropLast.any (·.target.isEmpty) then fail
  return found

def insertInto (g : Grammar) (ctes : List Cte) : Reading Change := do
  needWord "INTO"
  let target ← target
  let columns ← if ← atSymbol "(" then namesInParens else pure []
  if ← words ["DEFAULT", "VALUES"] then
    if !columns.isEmpty then fail
    return .insert ctes target columns none [] (← returning g)
  let q ← g.query
  let upserts ← upserts g
  return .insert ctes target columns (some q) upserts (← returning g)

def update (g : Grammar) (ctes : List Cte) : Reading Change := do
  orClause
  let target ← indexedTarget
  let assignments ← assignments g
  let sources ← if ← word "FROM" then g.sources else pure []
  let condition ← conditionAfter g "WHERE"
  return .update ctes target assignments sources condition (← returning g)

def delete (g : Grammar) (ctes : List Cte) : Reading Change := do
  needWord "FROM"
  let target ← indexedTarget
  let condition ← conditionAfter g "WHERE"
  return .delete ctes target condition (← returning g)

def change? (g : Grammar) (ctes : List Cte) : Reading (Option Change) := do
  match ← peekKey with
  | "INSERT" =>
    skip
    orClause
    some <$> insertInto g ctes
  | "REPLACE" =>
    skip
    some <$> insertInto g ctes
  | "UPDATE" =>
    skip
    some <$> update g ctes
  | "DELETE" =>
    skip
    some <$> delete g ctes
  | _ => return none

def queryOrChange (g : Grammar) : Reading Statement := do
  let ctes ← withClause g
  match ← change? g ctes with
  | some c => return .change c
  | none => return .query (← queryAfter g ctes)

end RowFence.Database.Reading
