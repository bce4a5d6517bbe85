import RowFence.Json.Shape

/-! Any JSON value. -/

namespace RowFence.Json

inductive Value where
  | null
  | bool (b : Bool)
  | number (n : Number)
  | string (s : String)
  | list (elements : List Value)
  | object (members : List (String × Value))
  deriving Repr

namespace Reader

def members (item : Reader Value) : (bound : Nat) → (isFirst : Bool) → Reader (List (String × Value))
  | 0, _ => return []
  | bound + 1, isFirst => do
    if !(← moreKeys isFirst) then return []
    let name ← quoted
    colon
    let v ← inside (.field name) item
    return (name, v) :: (← members item bound false)

def valueWithin : (depth : Nat) → Reader Value
  | 0 => failAhead .tooDeep
  | depth + 1 => located do
    match ← first with
    | 'n' =>
      word ['n', 'u', 'l', 'l']
      return .null
    | 't' =>
      word ['t', 'r', 'u', 'e']
      return .bool true
    | 'f' =>
      word ['f', 'a', 'l', 's', 'e']
      return .bool false
    | '"' => return .string (← quoted)
    | '[' =>
      if depth = 0 then failAhead .tooDeep
      skip
      .list <$> enclosed (do elements (valueWithin depth) (← bound) 0) listEnd
    | '{' =>
      if depth = 0 then failAhead .tooDeep
      skip
      .object <$> enclosed (do members (valueWithin depth) (← bound) true) objectEnd
    | c =>
      if c != '-' && !c.isDigit then failAhead .wantsValue
      return .number (← number)

def value : Reader Value := valueWithin 128

end Reader

end RowFence.Json
