import RowFence.Sql.Parser.Basic

/-! How tightly operators bind. An operator continues an expression only if it binds tighter than
what the expression is part of. -/

namespace RowFence.Sql

inductive Level where
  | doubleColon | bracket | collate | atTimeZone | multiply | add | xor | ampersand | caret | pipe
  | between | eq | like | is | extension | not | and | or
  deriving DecidableEq, Repr

namespace Level

def usual : Level → Nat
  | doubleColon | bracket => 50
  | atTimeZone => 41
  | multiply => 40
  | add => 30
  | xor => 24
  | ampersand => 23
  | caret => 22
  | pipe => 21
  | between | eq => 20
  | like => 19
  | is => 17
  | extension => 16
  | not => 15
  | and => 10
  | or => 5
  | collate => 0

def postgres : Level → Nat
  | doubleColon => 140
  | bracket => 130
  | collate => 120
  | atTimeZone => 110
  | caret => 100
  | multiply => 90
  | add => 80
  | xor => 75
  | ampersand | pipe | extension => 70
  | between | like => 60
  | eq => 50
  | is => 40
  | not => 30
  | and => 20
  | or => 10

def strength (d : Dialect) (l : Level) : Nat := if d = .postgres then l.postgres else l.usual

def ofSymbol? (d : Dialect) (s : Symbol) : Option Level :=
  match s with
  | .eq | .lt | .ltEq | .neq | .gt | .gtEq | .doubleEq | .tilde | .tildeAsterisk
  | .exclamationMarkTilde | .exclamationMarkTildeAsterisk | .doubleTilde | .doubleTildeAsterisk
  | .exclamationMarkDoubleTilde | .exclamationMarkDoubleTildeAsterisk | .spaceship => some eq
  | .pipe => some pipe
  | .caret => some caret
  | .ampersand => some ampersand
  | .plus | .minus => some add
  | .mul | .div | .duckIntDiv | .mod => some multiply
  | .doubleColon => some doubleColon
  | .lBracket => some bracket
  | .stringConcat => some (if d = .postgres then extension else multiply)
  | .sharp | .shiftRight | .shiftLeft => some (if d = .postgres then extension else caret)
  | .exclamationMark | .overlap | .caretAt =>
    some (if d = .postgres then extension else doubleColon)
  | .arrow | .longArrow | .hashArrow | .hashLongArrow | .atArrow | .arrowAt | .hashMinus
  | .atQuestion | .atAt | .question | .questionAnd | .questionPipe => some extension
  | _ => none

def ofWords? (d : Dialect) (key next afterNext : String) : Option Level :=
  match key with
  | "OR" => some or
  | "AND" => some and
  | "XOR" => some xor
  | "AT" => if next == "TIME" && afterNext == "ZONE" then some atTimeZone else none
  | "NOT" =>
    match next with
    | "IN" | "BETWEEN" => some between
    | "LIKE" | "ILIKE" | "RLIKE" | "REGEXP" | "SIMILAR" => some like
    | _ => none
  | "IS" => some is
  | "IN" | "BETWEEN" | "OPERATOR" => some between
  | "LIKE" | "ILIKE" | "RLIKE" | "REGEXP" | "SIMILAR" => some like
  | "DIV" => some multiply
  | "COLLATE" => if d = .postgres then some collate else none
  | _ => none

end Level

namespace Parser

def strength (l : Level) : Parser Nat := return l.strength (← dialect)

/-- How tightly the next token binds as an operator, 0 if it is none. -/
def nextStrength : Parser Nat := do
  let d ← dialect
  let level? ← match ← peekToken with
    | .word w => pure (Level.ofWords? d w.key (← peekKeyAt 1) (← peekKeyAt 2))
    | .symbol s => pure (Level.ofSymbol? d s)
    | .operator _ => pure (some Level.extension)
    | _ => pure none
  return (level?.map (Level.strength d)).getD 0

end Parser

end RowFence.Sql
