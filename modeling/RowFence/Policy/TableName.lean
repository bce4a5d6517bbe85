import RowFence.Text.Blank

/-! Table names in the form in which they are looked up: without quotes and schema, in small
letters. -/

namespace RowFence

structure TableName where
  text : String
  deriving DecidableEq, Repr

namespace TableName

def isQuote (c : Char) : Bool := c = '`' || c = '"' || c = '\'' || c = '[' || c = ']'

def afterLastPeriod (cs : List Char) : List Char :=
  (cs.reverse.takeWhile (· != '.')).reverse

def normal (cs : List Char) : List Char :=
  (Text.trimChars (afterLastPeriod (Text.trimChars (cs.filter (!isQuote ·))))).map Char.toLower

/-- The name meant by a reference as it is written in a statement. -/
def ofReference (s : String) : TableName := ⟨String.ofList (normal s.toList)⟩

/-- Tables without a tenant column, whatever is configured. -/
def builtin : List String :=
  ["s2_tenant", "s2_subscription_plan", "s2_permission", "s2_role_permission", "s2_user_role"]

def isBuiltin (t : TableName) : Bool := builtin.contains t.text

def sortDistinct (names : List TableName) : List TableName :=
  (names.mergeSort fun a b => a.text ≤ b.text).eraseDups

end TableName

end RowFence
