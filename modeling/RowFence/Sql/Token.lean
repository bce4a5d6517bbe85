import RowFence.Sql.Position
import RowFence.Sql.Symbol

/-! Tokens of SQL text and their spelling in messages. -/

namespace RowFence.Sql

/-- Capitals of a word as far as they are ASCII; ligatures and the sharp s have two or three. -/
def capital (c : Char) : List Char :=
  if c.toNat < 128 then [c.toUpper]
  else if c = 'ſ' then ['S']
  else if c = 'ı' then ['I']
  else if c = 'ß' then ['S', 'S']
  else if c = 'ﬀ' then ['F', 'F']
  else if c = 'ﬁ' then ['F', 'I']
  else if c = 'ﬂ' then ['F', 'L']
  else if c = 'ﬃ' then ['F', 'F', 'I']
  else if c = 'ﬄ' then ['F', 'F', 'L']
  else if c = 'ﬅ' then ['S', 'T']
  else if c = 'ﬆ' then ['S', 'T']
  else [c]

def capitals (s : String) : String := String.ofList (s.toList.flatMap capital)

/-- A word with the quote that opened it, if any. The key is the word in capitals, by which
keywords are told; a quoted word has none. -/
structure Word where
  value : String
  quote : Option Char
  key : String
  deriving DecidableEq, Repr

namespace Word

def plain (value : String) : Word := ⟨value, none, capitals value⟩

def quoted (value : String) (quote : Char) : Word := ⟨value, some quote, ""⟩

end Word

def closingQuote (opening : Char) : Char := if opening = '[' then ']' else opening

inductive StringKind where
  | single | double | national | escaped | unicode | hex
  | singleBytes | doubleBytes | singleRaw | doubleRaw | tripleSingleRaw | tripleDoubleRaw
  deriving DecidableEq, Repr

namespace StringKind

def opening : StringKind → String
  | single => "'"
  | double => "\""
  | national => "N'"
  | escaped => "E'"
  | unicode => "U&'"
  | hex => "X'"
  | singleBytes => "B'"
  | doubleBytes => "B\""
  | singleRaw => "R'"
  | doubleRaw => "R\""
  | tripleSingleRaw => "R'''"
  | tripleDoubleRaw => "R\"\"\""

def closing : StringKind → String
  | double | doubleBytes | doubleRaw => "\""
  | tripleSingleRaw => "'''"
  | tripleDoubleRaw => "\"\"\""
  | _ => "'"

end StringKind

inductive Token where
  | word (w : Word)
  | number (digits : String) (long : Bool)
  | string (kind : StringKind) (body : String)
  | dollarString (tag : String) (body : String)
  | symbol (s : Symbol)
  | parameter (text : String)
  | operator (text : String)
  | char (c : Char)
  | ending
  deriving DecidableEq, Repr

namespace Token

def text : Token → String
  | .word w =>
    match w.quote with
    | none => w.value
    | some q => q.toString ++ w.value ++ (closingQuote q).toString
  | .number digits long => if long then digits ++ "L" else digits
  | .string kind body => kind.opening ++ body ++ kind.closing
  | .dollarString tag body => "$" ++ tag ++ "$" ++ body ++ "$" ++ tag ++ "$"
  | .symbol s => s.spelling
  | .parameter text => text
  | .operator text => text
  | .char c => c.toString
  | .ending => "EOF"

def key : Token → String
  | .word w => w.key
  | _ => ""

end Token

structure PlacedToken where
  token : Token
  place : Position
  gaps : List String
  deriving Repr

end RowFence.Sql
