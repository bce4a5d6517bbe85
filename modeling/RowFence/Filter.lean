import RowFence.Sql.Collect
import RowFence.Sql.Parser
import RowFence.Text.Blank
import RowFence.Text.WordChar

/-! Screening of row filters: a filter is one condition, without signs of a second statement or a
comment, without words that change data, and without calls that tell about the server. -/

namespace RowFence.Filter

open Sql

/-- Small letters, as far as words of the deny lists go: two letters outside of ASCII count as the
letters that they stand for. -/
def folded (c : Char) : Char :=
  if c = '\u017f' then 's' else if c = '\u212a' then 'k' else c.toLower

def startsWith (word text : List Char) : Bool := (word.map folded).isPrefixOf (text.map folded)

/-! Signs of an injection -/

def isHexDigit (c : Char) : Bool :=
  c.isDigit || ('a' ≤ c && c ≤ 'f') || ('A' ≤ c && c ≤ 'F')

def startsHexLiteral (cs : List Char) : Bool :=
  startsWith ['0', 'x'] cs && match cs.drop 2 with | c :: _ => isHexDigit c | [] => false

def dangerousSigns : List (List Char) :=
  [['-', '-'], [';'], ['/', '*'], ['*', '/'], ['x', 'p', '_'], ['s', 'p', '_']]

def startsDangerous (cs : List Char) : Bool :=
  dangerousSigns.any (startsWith · cs) || startsHexLiteral cs

def isDangerous : List Char → Bool
  | [] => false
  | c :: cs => startsDangerous (c :: cs) || isDangerous cs

/-! Words that are refused -/

def forbiddenKeywords : List String :=
  ["DROP", "DELETE", "TRUNCATE", "UPDATE", "INSERT", "ALTER", "CREATE", "EXEC", "EXECUTE",
    "GRANT", "REVOKE", "SHUTDOWN", "BACKUP", "UNION", "INTO", "OUTFILE", "DUMPFILE", "LOAD_FILE"]

def startsWithWordChar : List Char → Bool
  | [] => false
  | c :: _ => Text.isWordChar c

/-- The forbidden keyword at the start of a text, as it is written there. No word goes on after
it. -/
def keywordAt? (cs : List Char) : Option (List Char) :=
  (forbiddenKeywords.map String.toList).findSome? fun word =>
    if startsWith word cs && !startsWithWordChar (cs.drop word.length) then
      some (cs.take word.length)
    else none

def findKeyword? : (insideWord : Bool) → List Char → Option (List Char)
  | _, [] => none
  | insideWord, c :: cs =>
    match if insideWord then none else keywordAt? (c :: cs) with
    | some found => some found
    | none => findKeyword? (Text.isWordChar c) cs

/-! Calls that are refused -/

def forbiddenFunctions : List String :=
  ["SLEEP", "BENCHMARK", "LOAD_FILE", "INTO_OUTFILE", "INTO_DUMPFILE", "USER", "DATABASE",
    "VERSION", "SYSTEM_USER", "SESSION_USER", "CURRENT_USER"]

/-- Functions that are called without parentheses too. -/
def bareFunctions : List String := ["CURRENT_USER", "SESSION_USER", "SYSTEM_USER"]

def upperCase (s : String) : String := s.map Char.toUpper

def isForbiddenFunction (name : String) : Bool := forbiddenFunctions.contains (upperCase name)

/-- The function that is called at an expression, by the last part of its name. -/
def calledAt : Node → List String
  | .expr (.call name _) => name.getLast?.toList.map (·.value)
  | .expr (.name [⟨word, none⟩]) => if bareFunctions.contains (upperCase word) then [word] else []
  | _ => []

def calledFunctions (e : Expr) : List String := e.collect calledAt

def least? : List String → Option String
  | [] => none
  | a :: as =>
    match least? as with
    | none => some a
    | some b => some (if b < a then b else a)

/-- The first of the forbidden functions that are called, in the order of characters. -/
def forbiddenCall? (e : Expr) : Option String :=
  least? ((calledFunctions e).filter isForbiddenFunction)

/-! Conditions -/

inductive ConditionFault where
  | statement (word : String)
  | trailing (token : String)
  | syntaxError (e : SyntaxError)
  deriving DecidableEq, Repr

def ConditionFault.message : ConditionFault → String
  | statement word => "expected a condition, found statement keyword " ++ upperCase word
  | trailing token => "unexpected trailing input: " ++ token
  | syntaxError e => e.message

def statementKeywords : List String :=
  ["SELECT", "WITH", "VALUES", "TABLE", "SHOW", "SET", "CALL", "MERGE", "REPLACE", "USE",
    "DESCRIBE", "EXPLAIN", "COPY", "PREPARE", "DEALLOCATE", "DECLARE", "KILL"]

def conditionParser : Parser (Except String (Expr × Token)) := do
  match ← Parser.peekToken with
  | .word w =>
    if statementKeywords.contains w.key then return .error w.value
  | _ => pure ()
  let e ← Grammar.whole.expr
  return .ok (e, ← Parser.peekToken)

def condition (d : Dialect) (text : String) : Except ConditionFault Expr :=
  match Parser.run conditionParser d text with
  | .error e => .error (.syntaxError e)
  | .ok (.error word) => .error (.statement word)
  | .ok (.ok (e, .ending)) => .ok e
  | .ok (.ok (_, token)) => .error (.trailing token.text)

/-! Filters -/

inductive Rejection where
  | dangerousPattern
  | forbiddenKeyword (keyword : String)
  | invalidSyntax (e : ConditionFault)
  | forbiddenFunction (function : String)
  deriving DecidableEq, Repr

def Rejection.message : Rejection → String
  | dangerousPattern => "Expression contains potentially dangerous patterns"
  | forbiddenKeyword keyword => "Expression contains forbidden keyword: " ++ keyword
  | invalidSyntax e => "Invalid SQL expression syntax: " ++ e.message
  | forbiddenFunction function => "Expression contains forbidden function: " ++ function

def rejection? (d : Dialect) (filter : String) : Option Rejection :=
  let text := Text.trimChars filter.toList
  if text.isEmpty then none
  else if isDangerous text then some .dangerousPattern
  else
    match findKeyword? false text with
    | some found => some (.forbiddenKeyword (upperCase (.ofList found)))
    | none =>
      match condition d (.ofList text) with
      | .error e => some (.invalidSyntax e)
      | .ok e => (forbiddenCall? e).map .forbiddenFunction

end RowFence.Filter
