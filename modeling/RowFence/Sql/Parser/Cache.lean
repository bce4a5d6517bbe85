import RowFence.Sql.Parser.Column

/-! Statements about the files and copies behind tables, each after its keyword. -/

namespace RowFence.Sql.Parser

def partitionRepair : Parser String := do
  let action := ((← oneOf? ["ADD", "DROP", "SYNC"]).map (" " ++ · ++ " PARTITIONS")).getD ""
  expectKeyword "PARTITIONS"
  return action

def repairTable : Parser Statement := do
  let repair ← keyword "REPAIR"
  expectKeyword "TABLE"
  let name ← objectName
  let action := (← maybe? partitionRepair).getD ""
  return plain ("MSCK " ++ (if repair then "REPAIR " else "") ++ "TABLE " ++ Name.spelling name
    ++ action)

def cachedQuery (g : Grammar) : Parser (List Piece) := do
  match ← peekToken with
  | .ending => return []
  | .word _ =>
    let after ← keyword "AS"
    return [.text (if after then " AS " else " "), .query (← g.query)]
  | _ => expectedHere "a QUERY statement"

def cacheTable (g : Grammar) : Parser Statement := do
  let flag ←
    if ← atKeyword "TABLE" then pure "" else pure (Name.spelling (← objectName) ++ " ")
  if !(← keyword "TABLE") then
    if (← peekToken) == .ending then back
    expectedHere "a `TABLE` keyword"
  let name ← objectName
  let options ← optionsAfter g "OPTIONS"
  let q ← cachedQuery g
  return .other (.text ("CACHE " ++ flag ++ "TABLE " ++ Name.spelling name)
    :: around " OPTIONS(" options ++ q)

def uncacheTable : Parser Statement := do
  expectKeyword "TABLE"
  let condition ← ifExists
  return plain ("UNCACHE TABLE " ++ condition ++ Name.spelling (← objectName))

def unload (g : Grammar) : Parser Statement := do
  let q ← parenthesized g.query
  expectKeyword "TO"
  let target ← identifier
  let options ← optionsAfter g "WITH"
  return .other ([.text "UNLOAD(", .query q, .text (") TO " ++ target.spelling)]
    ++ around " WITH (" options)

def detach : Parser Statement := do
  let database ← keyword "DATABASE"
  let condition ← ifExists
  return plain ((if database then "DETACH DATABASE " else "DETACH ") ++ condition
    ++ (← identifier).spelling)

def install : Parser Statement := do return plain ("INSTALL " ++ (← identifier).spelling)

def load : Parser Statement := do return plain ("LOAD " ++ (← identifier).spelling)

def optimize (g : Grammar) : Parser Statement := do
  expectKeyword "TABLE"
  let name ← objectName
  let cluster ← onCluster
  let partition ←
    if ← keyword "PARTITION" then
      if ← keyword "ID" then pure (text (" PARTITION ID " ++ (← identifier).spelling))
      else pure [.text " PARTITION ", .expr (← g.expr)]
    else pure []
  let final ← if ← keyword "FINAL" then pure " FINAL" else pure ""
  let deduplicate ←
    if ← keyword "DEDUPLICATE" then
      if ← keyword "BY" then pure [.text " DEDUPLICATE BY ", .expr (← g.expr)]
      else pure (text " DEDUPLICATE")
    else pure []
  return .other (.text ("OPTIMIZE TABLE " ++ Name.spelling name ++ cluster) :: partition
    ++ text final ++ deduplicate)

end RowFence.Sql.Parser
