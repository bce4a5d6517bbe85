import RowFence.Sql.Syntax
import RowFence.Sql.Token

/-! How names and literals are written. -/

namespace RowFence.Sql

/-- Doubles each quote, except a quote after a backslash and quotes that already come in pairs. -/
def doubleQuotes (quote : Char) : (last : Char) → List Char → List Char
  | _, [] => []
  | last, [c] => if c = quote && last != '\\' then [c, c] else [c]
  | last, c :: d :: rest =>
    if c = quote then
      if last = '\\' then c :: doubleQuotes quote last (d :: rest)
      else if d = quote then c :: c :: doubleQuotes quote c rest
      else c :: c :: doubleQuotes quote c (d :: rest)
    else c :: doubleQuotes quote c (d :: rest)

def quoted (quote : Char) (s : String) : String :=
  quote.toString ++ String.ofList (doubleQuotes quote '\x00' s.toList) ++ quote.toString

namespace Ident

def spelling (i : Ident) : String :=
  match i.quote with
  | none => i.value
  | some '[' => "[" ++ i.value ++ "]"
  | some quote => quoted quote i.value

def ofWord (w : Word) : Ident := ⟨w.value, w.quote⟩

end Ident

def Name.spelling (n : Name) : String := ".".intercalate (n.map Ident.spelling)

def listed (items : List String) : String := ", ".intercalate items

def TableAlias.spelling (a : TableAlias) : String :=
  if a.columns.isEmpty then a.name.spelling
  else a.name.spelling ++ " (" ++ listed (a.columns.map Ident.spelling) ++ ")"

namespace BinaryOp

def spelling : BinaryOp → String
  | and => "AND"
  | or => "OR"
  | xor => "XOR"
  | eq => "="
  | concat => "||"
  | other s => s

end BinaryOp

namespace SetOp

def spelling : SetOp → String
  | union => "UNION"
  | except => "EXCEPT"
  | intersect => "INTERSECT"

/-- Intersections bind tighter than the other operations. -/
def strength : SetOp → Nat
  | union | except => 10
  | intersect => 20

end SetOp

namespace Literal

def escapeChar : Char → List Char
  | '\'' => ['\\', '\'']
  | '\\' => ['\\', '\\']
  | '\n' => ['\\', 'n']
  | '\t' => ['\\', 't']
  | '\r' => ['\\', 'r']
  | c => [c]

def hexCode (width n : Nat) : List Char :=
  let digits := (Nat.toDigits 16 n).map Char.toUpper
  List.replicate (width - digits.length) '0' ++ digits

def unicodeChar (c : Char) : List Char :=
  if c = '\'' then ['\'', '\'']
  else if c = '\\' then ['\\', '\\']
  else if c.toNat < 128 then [c]
  else if c.toNat ≤ 0xFFFF then '\\' :: hexCode 4 c.toNat
  else '\\' :: '+' :: hexCode 6 c.toNat

def single (s : String) : String := quoted '\'' s

def string : StringKind → String → String
  | .single, body => quoted '\'' body
  | .double, body => quoted '"' body
  | .escaped, body => "E'" ++ String.ofList (body.toList.flatMap escapeChar) ++ "'"
  | .unicode, body => "U&'" ++ String.ofList (body.toList.flatMap unicodeChar) ++ "'"
  | kind, body => kind.opening ++ body ++ kind.closing

end Literal

end RowFence.Sql
