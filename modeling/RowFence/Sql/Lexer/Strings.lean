import RowFence.Sql.Dialect
import RowFence.Sql.Token

/-! Reading the body of a string literal or a quoted name, after its opening quote. -/

namespace RowFence.Sql.Lexer

structure Stuck where
  reason : String
  rest : List Char

inductive Lexeme where
  | token (t : Token)
  | gap (text : String)

abbrev Step := Except Stuck (Lexeme × List Char)

def before (c : Char) : List Char × List Char → List Char × List Char
  | (body, rest) => (c :: body, rest)

def escapedChar : Char → Char
  | '0' => '\x00'
  | 'a' => '\x07'
  | 'b' => '\x08'
  | 'f' => '\x0c'
  | 'n' => '\n'
  | 'r' => '\r'
  | 't' => '\t'
  | 'Z' => '\x1a'
  | c => c

/-- A doubled quote stands for one; with `escapes` a backslash changes the character after it. -/
def stringBody? (quote : Char) (escapes : Bool) : List Char → Option (List Char × List Char)
  | [] => none
  | [c] => if c = quote then some ([], []) else none
  | c :: d :: rest =>
    if c = quote then
      if d = quote then (stringBody? quote escapes rest).map (before c) else some ([], d :: rest)
    else if c = '\\' && escapes then (stringBody? quote escapes rest).map (before (escapedChar d))
    else (stringBody? quote escapes (d :: rest)).map (before c)

/-- The text starts with the quote. -/
def stringLiteral (kind : StringKind) (quote : Char) (escapes : Bool) (text : List Char) :
    Step :=
  match stringBody? quote escapes text.tail with
  | some (body, rest) => .ok (.token (.string kind (String.ofList body)), rest)
  | none => .error ⟨"Unterminated string literal", text⟩

/-- What three quotes enclose, up to the first three that follow each other. -/
def tripledBody? (quote : Char) : List Char → Option (List Char × List Char)
  | [] => none
  | c :: rest =>
    if (c :: rest).take 3 = [quote, quote, quote] then some ([], rest.drop 2)
    else (tripledBody? quote rest).map (before c)

def rawString (kind tripled : StringKind) (quote : Char) (text : List Char) : Step :=
  let opened := (text.take 3).takeWhile (· == quote)
  let inside := text.drop opened.length
  let body? := match opened.length with
    | 1 => (stringBody? quote false inside).map (kind, ·)
    | 2 => some (kind, [], inside)
    | _ => (tripledBody? quote inside).map (tripled, ·)
  match body? with
  | some (kind, body, rest) => .ok (.token (.string kind (String.ofList body)), rest)
  | none => .error ⟨"Unterminated string literal", inside⟩

def quotedName (opening : Char) (text : List Char) : Step :=
  match stringBody? (closingQuote opening) false text.tail with
  | some (body, rest) => .ok (.token (.word (.quoted (String.ofList body) opening)), rest)
  | none =>
    .error ⟨"Expected close delimiter '" ++ (closingQuote opening).toString ++ "' before EOF.", text⟩

def hexDigit? (c : Char) : Option Nat :=
  if '0' ≤ c ∧ c ≤ '9' then some (c.toNat - '0'.toNat)
  else if 'a' ≤ c ∧ c ≤ 'f' then some (c.toNat - 'a'.toNat + 10)
  else if 'A' ≤ c ∧ c ≤ 'F' then some (c.toNat - 'A'.toNat + 10)
  else none

def isOctal (c : Char) : Bool := '0' ≤ c && c ≤ '7'

def validChar? (n : Nat) : Option Char := if n.isValidChar then some (Char.ofNat n) else none

def hexNumber? (digits : List Char) : Option Nat :=
  digits.foldl (fun n? c => n?.bind fun n => (hexDigit? c).map (16 * n + ·)) (some 0)

/-- A sign is taken before the digits of a code point. -/
def codePoint? (digits : List Char) : Option Char :=
  (hexNumber? (match digits with | '+' :: rest => rest | _ => digits)).bind validChar?

def asciiByte? (n : Nat) : Option Char := if n % 256 ≤ 127 then validChar? (n % 256) else none

/-- What follows a backslash in an escape string, and how many more characters it takes. -/
def escapeSequence? : List Char → Option (Char × Nat)
  | [] => none
  | c :: rest =>
    match c with
    | 'b' => some ('\x08', 1)
    | 'f' => some ('\x0c', 1)
    | 'n' => some ('\n', 1)
    | 'r' => some ('\r', 1)
    | 't' => some ('\t', 1)
    | 'u' => if rest.length < 4 then none else (codePoint? (rest.take 4)).map (·, 5)
    | 'U' => if rest.length < 8 then none else (codePoint? (rest.take 8)).map (·, 9)
    | 'x' =>
      let digits := (rest.take 2).takeWhile fun d => (hexDigit? d).isSome
      if digits.isEmpty then some ('x', 1)
      else ((hexNumber? digits).bind asciiByte?).map (·, digits.length + 1)
    | _ =>
      if isOctal c then
        let digits := c :: (rest.take 2).takeWhile isOctal
        (asciiByte? (digits.foldl (fun n d => 8 * n + (d.toNat - '0'.toNat)) 0)).map
          (·, digits.length)
      else some (c, 1)

/-- The second argument counts characters of an escape sequence that are still to be passed over. -/
def escapeBody? : List Char → Nat → Option (List Char × List Char)
  | [], _ => none
  | _ :: rest, n + 1 => escapeBody? rest n
  | ['\''], 0 => some ([], [])
  | '\'' :: d :: rest, 0 =>
    if d = '\'' then (escapeBody? rest 0).map (before '\'') else some ([], d :: rest)
  | c :: rest, 0 =>
    if c = '\\' then
      match escapeSequence? rest with
      | some (value, taken) =>
        if value = '\x00' then none else (escapeBody? rest taken).map (before value)
      | none => none
    else (escapeBody? rest 0).map (before c)

def escapeString (text : List Char) : Step :=
  match escapeBody? (text.drop 2) 0 with
  | some (body, rest) => .ok (.token (.string .escaped (String.ofList body)), rest)
  | none => .error ⟨"Unterminated encoded string literal", text⟩

def hexText (n : Nat) : String := String.ofList (Nat.toDigits 16 n)

def unicodeDigits : (count : Nat) → (value : Nat) → List Char → Except Stuck (Char × List Char)
  | 0, value, rest =>
    match validChar? value with
    | some c => .ok (c, rest)
    | none => .error ⟨"Invalid unicode character: " ++ hexText value, rest⟩
  | _ + 1, _, [] => .error ⟨"Unexpected EOF while parsing hex digit in escaped unicode string.", []⟩
  | count + 1, value, c :: rest =>
    match hexDigit? c with
    | some digit => unicodeDigits count (16 * value + digit) rest
    | none => .error ⟨"Invalid hex digit in escaped unicode string: " ++ c.toString, rest⟩

/-- The second argument counts characters of a code point that are still to be passed over. -/
def unicodeBody : List Char → Nat → Except Stuck (List Char × List Char)
  | [], _ => .error ⟨"Unterminated unicode encoded string literal", []⟩
  | _ :: rest, n + 1 => unicodeBody rest n
  | ['\''], 0 => .ok ([], [])
  | '\'' :: d :: rest, 0 =>
    if d = '\'' then (unicodeBody rest 0).map (before '\'') else .ok ([], d :: rest)
  | c :: rest, 0 =>
    if c = '\\' then
      match rest with
      | '\\' :: _ => (unicodeBody rest 1).map (before '\\')
      | '+' :: digits =>
        (unicodeDigits 6 0 digits).bind fun (value, _) => (unicodeBody rest 7).map (before value)
      | _ => (unicodeDigits 4 0 rest).bind fun (value, _) => (unicodeBody rest 4).map (before value)
    else (unicodeBody rest 0).map (before c)

def unicodeString (body : List Char) : Step :=
  (unicodeBody body 0).map fun (body, rest) =>
    (.token (.string .unicode (String.ofList body)), rest)

/-- After `$$`; the flag says that the character before was a dollar. A dollar within the text
stays only before another character than a dollar. -/
def dollarBody? : Bool → List Char → Option (List Char × List Char)
  | _, [] => none
  | true, c :: rest =>
    if c = '$' then some ([], rest)
    else (dollarBody? false rest).map fun (body, rest) => ('$' :: c :: body, rest)
  | false, c :: rest =>
    if c = '$' then dollarBody? true rest else (dollarBody? false rest).map (before c)

/-- After `$tag$`. The second argument is the part of the closing quote already met, reversed, and
the third what is still missing of it; a part that turns out different belongs to the text. -/
def taggedBody? (tag : List Char) : List Char → List Char → Option (List Char) →
    Option (List Char × List Char)
  | [], _, _ => none
  | c :: rest, _, none =>
    if c = '$' then taggedBody? tag rest ['$'] (some tag) else (taggedBody? tag rest [] none).map (before c)
  | c :: rest, met, some (t :: missing) =>
    if c = t then taggedBody? tag rest (c :: met) (some missing)
    else (taggedBody? tag rest [] none).map fun (body, rest) => ((c :: met).reverse ++ body, rest)
  | c :: rest, met, some [] =>
    if c = '$' then some ([], rest)
    else
      (taggedBody? tag (c :: rest) [] none).map fun (body, rest) => (met.reverse ++ body, rest)
  termination_by text _ missing => (text.length, if missing.isSome then 1 else 0)

def dollarToken (text : List Char) : Step :=
  let name := text.tail
  if name.head? = some '$' then
    match dollarBody? false name.tail with
    | some (body, rest) => .ok (.token (.dollarString "" (String.ofList body)), rest)
    | none => .error ⟨"Unterminated dollar-quoted string", []⟩
  else
    let continues c := Text.isLetter c || Text.isNumber c || c = '_'
    let tag := name.takeWhile continues
    let rest := name.dropWhile continues
    if rest.head? = some '$' then
      match taggedBody? tag rest.tail [] none with
      | some (body, rest) => .ok (.token (.dollarString (String.ofList tag) (String.ofList body)), rest)
      | none => .error ⟨"Unterminated dollar-quoted, expected $", []⟩
    else .ok (.token (.parameter (String.ofList ('$' :: tag))), rest)

end RowFence.Sql.Lexer
