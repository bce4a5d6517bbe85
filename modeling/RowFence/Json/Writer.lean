import RowFence.Json.Value

/-! JSON text without blanks. Control characters, quotes and backslashes are escaped in strings,
all others stand for themselves. -/

namespace RowFence.Json

def hexDigit (n : Nat) : Char := (Nat.toDigits 16 n).headD '0'

def escapedChar (c : Char) : List Char :=
  match c with
  | '"' => ['\\', '"']
  | '\\' => ['\\', '\\']
  | '\x08' => ['\\', 'b']
  | '\x0c' => ['\\', 'f']
  | '\n' => ['\\', 'n']
  | '\r' => ['\\', 'r']
  | '\t' => ['\\', 't']
  | c =>
    if c < ' ' then ['\\', 'u', '0', '0', hexDigit (c.toNat / 16), hexDigit (c.toNat % 16)]
    else [c]

def writtenString (s : String) : List Char := '"' :: s.toList.flatMap escapedChar ++ ['"']

def Number.written : Number → List Char
  | int value => (toString value).toList
  | real value => (Decimal.spelling value).toList

mutual

def Value.written : Value → List Char
  | .null => ['n', 'u', 'l', 'l']
  | .bool true => ['t', 'r', 'u', 'e']
  | .bool false => ['f', 'a', 'l', 's', 'e']
  | .number n => n.written
  | .string s => writtenString s
  | .list [] => ['[', ']']
  | .list (v :: vs) => '[' :: v.written ++ writtenElements vs
  | .object [] => ['{', '}']
  | .object ((name, v) :: ms) => '{' :: writtenString name ++ ':' :: v.written ++ writtenMembers ms

def writtenElements : List Value → List Char
  | [] => [']']
  | v :: vs => ',' :: v.written ++ writtenElements vs

def writtenMembers : List (String × Value) → List Char
  | [] => ['}']
  | (name, v) :: ms => ',' :: writtenString name ++ ':' :: v.written ++ writtenMembers ms

end

def Value.render (v : Value) : String := .ofList v.written

def Value.int (i : Int) : Value := .number (.int i)

def Value.strings (ss : List String) : Value := .list (ss.map .string)

end RowFence.Json
