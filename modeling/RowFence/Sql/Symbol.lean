/-! Punctuation and operator signs of SQL. -/

namespace RowFence.Sql

inductive Symbol where
  | comma | doubleEq | eq | neq | lt | gt | ltEq | gtEq | spaceship | plus | minus | mul | div
  | duckIntDiv | mod | stringConcat | lParen | rParen | period | colon | doubleColon | assignment
  | semiColon | backslash | lBracket | rBracket | ampersand | pipe | caret | lBrace | rBrace
  | rArrow | sharp | tilde | tildeAsterisk | exclamationMarkTilde | exclamationMarkTildeAsterisk
  | doubleTilde | doubleTildeAsterisk | exclamationMarkDoubleTilde
  | exclamationMarkDoubleTildeAsterisk | shiftLeft | shiftRight | overlap | exclamationMark
  | doubleExclamationMark | atSign | caretAt | pgSquareRoot | pgCubeRoot | arrow | longArrow
  | hashArrow | hashLongArrow | atArrow | arrowAt | hashMinus | atQuestion | atAt | question
  | questionAnd | questionPipe
  deriving DecidableEq, Repr

namespace Symbol

def spelling : Symbol → String
  | comma => "," | doubleEq => "==" | eq => "=" | neq => "<>" | lt => "<" | gt => ">"
  | ltEq => "<=" | gtEq => ">=" | spaceship => "<=>" | plus => "+" | minus => "-" | mul => "*"
  | div => "/" | duckIntDiv => "//" | mod => "%" | stringConcat => "||" | lParen => "("
  | rParen => ")" | period => "." | colon => ":" | doubleColon => "::" | assignment => ":="
  | semiColon => ";" | backslash => "\\" | lBracket => "[" | rBracket => "]" | ampersand => "&"
  | pipe => "|" | caret => "^" | lBrace => "\x7b" | rBrace => "\x7d" | rArrow => "=>"
  | sharp => "#" | tilde => "~" | tildeAsterisk => "~*" | exclamationMarkTilde => "!~"
  | exclamationMarkTildeAsterisk => "!~*" | doubleTilde => "~~" | doubleTildeAsterisk => "~~*"
  | exclamationMarkDoubleTilde => "!~~" | exclamationMarkDoubleTildeAsterisk => "!~~*"
  | shiftLeft => "<<" | shiftRight => ">>" | overlap => "&&" | exclamationMark => "!"
  | doubleExclamationMark => "!!" | atSign => "@" | caretAt => "^@" | pgSquareRoot => "|/"
  | pgCubeRoot => "||/" | arrow => "->" | longArrow => "->>" | hashArrow => "#>"
  | hashLongArrow => "#>>" | atArrow => "@>" | arrowAt => "<@" | hashMinus => "#-"
  | atQuestion => "@?" | atAt => "@@" | question => "?" | questionAnd => "?&"
  | questionPipe => "?|"

/-- The word for a sign in messages that name the sign instead of spelling it. -/
def title : Symbol → String
  | comma => "Comma" | doubleEq => "DoubleEq" | eq => "Eq" | neq => "Neq" | lt => "Lt"
  | gt => "Gt" | ltEq => "LtEq" | gtEq => "GtEq" | spaceship => "Spaceship" | plus => "Plus"
  | minus => "Minus" | mul => "Mul" | div => "Div" | duckIntDiv => "DuckIntDiv" | mod => "Mod"
  | stringConcat => "StringConcat" | lParen => "LParen" | rParen => "RParen"
  | period => "Period" | colon => "Colon" | doubleColon => "DoubleColon"
  | assignment => "Assignment" | semiColon => "SemiColon" | backslash => "Backslash"
  | lBracket => "LBracket" | rBracket => "RBracket" | ampersand => "Ampersand" | pipe => "Pipe"
  | caret => "Caret" | lBrace => "LBrace" | rBrace => "RBrace" | rArrow => "RArrow"
  | sharp => "Sharp" | tilde => "Tilde" | tildeAsterisk => "TildeAsterisk"
  | exclamationMarkTilde => "ExclamationMarkTilde"
  | exclamationMarkTildeAsterisk => "ExclamationMarkTildeAsterisk"
  | doubleTilde => "DoubleTilde" | doubleTildeAsterisk => "DoubleTildeAsterisk"
  | exclamationMarkDoubleTilde => "ExclamationMarkDoubleTilde"
  | exclamationMarkDoubleTildeAsterisk => "ExclamationMarkDoubleTildeAsterisk"
  | shiftLeft => "ShiftLeft" | shiftRight => "ShiftRight" | overlap => "Overlap"
  | exclamationMark => "ExclamationMark" | doubleExclamationMark => "DoubleExclamationMark"
  | atSign => "AtSign" | caretAt => "CaretAt" | pgSquareRoot => "PGSquareRoot"
  | pgCubeRoot => "PGCubeRoot" | arrow => "Arrow" | longArrow => "LongArrow"
  | hashArrow => "HashArrow" | hashLongArrow => "HashLongArrow" | atArrow => "AtArrow"
  | arrowAt => "ArrowAt" | hashMinus => "HashMinus" | atQuestion => "AtQuestion"
  | atAt => "AtAt" | question => "Question" | questionAnd => "QuestionAnd"
  | questionPipe => "QuestionPipe"

end Symbol

end RowFence.Sql
