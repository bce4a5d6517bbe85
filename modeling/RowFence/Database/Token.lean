/-! The tokens of the statements that a database reads. -/

namespace RowFence.Database

inductive Token where
  | word (text : String)
  /-- A name in marks, which `[` stands for if they are brackets. -/
  | quoted (text : String) (mark : Char)
  | string (text : String)
  | integer (value : Nat)
  | constant
  | parameter
  | symbol (text : String)
  | unknown
  | ending
  deriving DecidableEq, Repr

structure PlacedToken where
  token : Token
  start : Nat
  stop : Nat
  deriving DecidableEq, Repr

namespace Token

/-- A token at the start of a text, and its number of characters. -/
abbrev Reach := Token × Nat

def isBlank (c : Char) : Bool := c = ' ' || c = '\t' || c = '\n' || c = '\x0c' || c = '\r'

def isWordChar (c : Char) : Bool := c.isAlphanum || c = '_' || c = '$' || '\x7f' < c

def startsWord (c : Char) : Bool := c.isAlpha || c = '_' || '\x7f' < c

def isHexDigit (c : Char) : Bool :=
  c.isDigit || ('a' ≤ c && c ≤ 'f') || ('A' ≤ c && c ≤ 'F')

/-- The text up to a closing mark, and the number of characters with the mark. Twice the mark is
the mark itself if `doubles`. -/
def quotedText? (closing : Char) (doubles : Bool) : List Char → Option (List Char × Nat)
  | [] => none
  | [c] => if c = closing then some ([], 1) else none
  | c :: d :: cs =>
    if c != closing then (quotedText? closing doubles (d :: cs)).map fun (t, n) => (c :: t, n + 1)
    else if doubles && d = closing then
      (quotedText? closing doubles cs).map fun (t, n) => (c :: t, n + 2)
    else some ([], 1)

def quotedWith (opening : Char) (cs : List Char) : Reach :=
  let closing := if opening = '[' then ']' else opening
  match quotedText? closing (opening != '[') cs with
  | none => (unknown, cs.length + 1)
  | some (t, n) =>
    (if opening = '\'' then string (.ofList t) else quoted (.ofList t) opening, n + 1)

def separatesDigits : List Char → Bool
  | [] => true
  | '_' :: _ => false
  | [_] => true
  | _ :: '_' :: cs =>
    match cs with
    | [] => false
    | c :: cs => separatesDigits (c :: cs)
  | _ :: c :: cs => separatesDigits (c :: cs)

def isDigitOrLine (c : Char) : Bool := c.isDigit || c = '_'

def exponent (cs : List Char) : List Char :=
  match cs with
  | e :: rest =>
    let (sign, digits) := match rest with
      | '+' :: ds => (['+'], ds)
      | '-' :: ds => (['-'], ds)
      | ds => ([], ds)
    if (e = 'e' || e = 'E') && (digits.head?.any Char.isDigit) then
      e :: sign ++ digits.takeWhile isDigitOrLine
    else []
  | [] => []

def decimalValue (cs : List Char) : Nat :=
  (cs.filter Char.isDigit).foldl (fun n c => 10 * n + (c.toNat - '0'.toNat)) 0

/-- A number, which no word may follow at once. -/
def number (cs : List Char) : Reach :=
  let hex := match cs with
    | '0' :: x :: d :: _ => (x = 'x' || x = 'X') && isHexDigit d
    | _ => false
  let (token, n) := if hex then
      let digits := (cs.drop 2).takeWhile fun c => isHexDigit c || c = '_'
      let isShort := (digits.filter isHexDigit |>.dropWhile (· = '0')).length ≤ 16
      (if isShort && separatesDigits digits then constant else unknown, digits.length + 2)
    else
      let whole := cs.takeWhile isDigitOrLine
      let rest := cs.drop whole.length
      let (point, fraction) := match rest with
        | '.' :: ds => (1, ds.takeWhile isDigitOrLine)
        | _ => (0, [])
      let exponent := exponent (rest.drop (point + fraction.length))
      let isWhole := point = 0 && exponent.isEmpty
      let regular := separatesDigits whole && separatesDigits fraction
        && separatesDigits (exponent.filter isDigitOrLine)
      (if !regular then unknown else if isWhole then integer (decimalValue whole) else constant,
        whole.length + point + fraction.length + exponent.length)
  match (cs.drop n).takeWhile isWordChar with
  | [] => (token, n)
  | more => (unknown, n + more.length)

/-- The rest of a parameter's name. Colons come in pairs. -/
def parameterLength : List Char → Nat
  | ':' :: ':' :: cs => parameterLength cs + 2
  | c :: cs => if isWordChar c then parameterLength cs + 1 else 0
  | [] => 0

def namedParameter (cs : List Char) : Reach :=
  let n := parameterLength cs
  (if (cs.take n).any isWordChar then parameter else unknown, n + 1)

def wordAt (cs : List Char) : Reach :=
  let text := cs.takeWhile isWordChar
  (word (.ofList text), text.length)

def bytes (cs : List Char) : Reach :=
  let digits := cs.takeWhile isHexDigit
  match cs.drop digits.length with
  | '\'' :: _ => (if digits.length % 2 = 0 then constant else unknown, digits.length + 3)
  | _ => (unknown, digits.length + 2)

def symbols : List String :=
  ["->>", "->", "||", "<=", "<>", "<<", ">=", ">>", "==", "!=", "-", "(", ")", ";", "+", "*", "/",
    "%", "=", "<", ">", "|", ",", "&", "~", "."]

def symbol? (cs : List Char) : Option Reach :=
  (symbols.find? fun s => s.toList.isPrefixOf cs).map fun s => (symbol s, s.length)

def ofChars : List Char → Reach
  | [] => (ending, 0)
  | c :: cs =>
    if c = '\'' || c = '"' || c = '`' || c = '[' then quotedWith c cs
    else if (c = 'x' || c = 'X') && cs.head? = some '\'' then bytes cs.tail
    else if startsWord c then wordAt (c :: cs)
    else if c.isDigit || (c = '.' && cs.head?.any Char.isDigit) then number (c :: cs)
    else if c = '?' then (parameter, 1 + (cs.takeWhile Char.isDigit).length)
    else if c = '$' || c = '@' || c = ':' then namedParameter cs
    else (symbol? (c :: cs)).getD (unknown, 1)

/-- The length of a comment that starts with a star. An open comment goes on to the end. -/
def blockLength : List Char → Nat
  | '*' :: '/' :: _ => 2
  | _ :: cs => blockLength cs + 1
  | [] => 0

def gapLength : List Char → Nat
  | '-' :: '-' :: cs => (cs.takeWhile (· != '\n')).length + 2
  | '/' :: '*' :: c :: cs => blockLength (c :: cs) + 2
  | c :: cs =>
    if isBlank c then 1 + (cs.takeWhile fun c => isBlank c || c = '\x0b').length
    else if c = '\ufeff' then 1 else 0
  | [] => 0

def scan : (bound : Nat) → (place : Nat) → List Char → List PlacedToken
  | 0, _, _ => []
  | _, _, [] => []
  | bound + 1, place, cs =>
    match gapLength cs with
    | 0 =>
      let (token, n) := ofChars cs
      ⟨token, place, place + n⟩ :: scan bound (place + n) (cs.drop n)
    | n => scan bound (place + n) (cs.drop n)

end Token

/-- The tokens of a text. Each has a character of its own at least. -/
def tokens (text : List Char) : List PlacedToken := Token.scan text.length 0 text

end RowFence.Database
