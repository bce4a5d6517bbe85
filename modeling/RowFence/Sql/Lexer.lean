import RowFence.Sql.Lexer.Strings
import RowFence.Sql.Lexer.Numbers
import RowFence.Text.Blank

/-! Splitting a statement text into tokens. Blanks and comments separate tokens; each token keeps
those before it, for data that stands between statements. -/

namespace RowFence.Sql.Lexer

def sign (s : Symbol) (rest : List Char) : Step := .ok (.token (.symbol s), rest)

def gap (text : String) (rest : List Char) : Step := .ok (.gap text, rest)

def wordFrom (d : Dialect) (start : List Char) (rest : List Char) : Step :=
  let value := start ++ rest.takeWhile d.continuesWord
  let rest := rest.dropWhile d.continuesWord
  let numeric c := c.isDigit || c = '.'
  if value.all numeric then
    .ok (.token (.number (String.ofList (value ++ rest.takeWhile numeric)) false), rest.dropWhile numeric)
  else .ok (.token (.word (.plain (String.ofList value))), rest)

/-- A letter that opens a literal only before a quote starts a word everywhere else. -/
def plainWord (d : Dialect) (start : Char) (rest : List Char) : Step :=
  let value := start :: rest.takeWhile d.continuesWord
  .ok (.token (.word (.plain (String.ofList value))), rest.dropWhile d.continuesWord)

def operator (d : Dialect) (s : Symbol) (rest : List Char) : Step :=
  let extra := rest.takeWhile d.extendsOperator
  if extra.isEmpty then sign s rest
  else .ok (.token (.operator (s.spelling ++ String.ofList extra)), rest.dropWhile d.extendsOperator)

def lineComment (mark : String) (rest : List Char) : Step :=
  let after := rest.dropWhile (· != '\n')
  gap (mark ++ String.ofList (rest.takeWhile (· != '\n') ++ after.take 1)) after.tail

/-- What follows a comment that is still open `depth` times, `last` being the character before. -/
def commentEnd? : (depth : Nat) → (last : Char) → List Char → Option (List Char)
  | _, _, [] => none
  | depth, last, c :: rest =>
    if last = '/' && c = '*' then commentEnd? (depth + 1) c rest
    else if last = '*' && c = '/' then
      if depth ≤ 1 then some rest else commentEnd? (depth - 1) c rest
    else commentEnd? depth c rest

def blockComment (rest : List Char) : Step :=
  match commentEnd? 1 ' ' rest with
  | some after => gap ("/*" ++ String.ofList (rest.take (rest.length - after.length))) after
  | none => .error ⟨"Unexpected EOF while in a multi-line comment", []⟩

def dash (d : Dialect) : List Char → Step
  | '-' :: rest => lineComment "--" rest
  | '>' :: '>' :: rest => operator d .longArrow rest
  | '>' :: rest => operator d .arrow rest
  | rest => operator d .minus rest

def slash (d : Dialect) : List Char → Step
  | '*' :: rest => blockComment rest
  | '/' :: rest => if d = .generic then sign .duckIntDiv rest else sign .div ('/' :: rest)
  | rest => sign .div rest

def percent (d : Dialect) (rest : List Char) : Step :=
  match rest with
  | c :: _ => if Text.isBlank c then sign .mod rest else operator d .mod rest
  | [] => sign .mod []

def bar (d : Dialect) : List Char → Step
  | '/' :: rest => operator d .pgSquareRoot rest
  | '|' :: '/' :: rest => operator d .pgCubeRoot rest
  | '|' :: rest => operator d .stringConcat rest
  | rest => operator d .pipe rest

def equals : List Char → Step
  | '>' :: rest => sign .rArrow rest
  | '=' :: rest => sign .doubleEq rest
  | rest => sign .eq rest

def bang : List Char → Step
  | '=' :: rest => sign .neq rest
  | '!' :: rest => sign .doubleExclamationMark rest
  | '~' :: '*' :: rest => sign .exclamationMarkTildeAsterisk rest
  | '~' :: '~' :: '*' :: rest => sign .exclamationMarkDoubleTildeAsterisk rest
  | '~' :: '~' :: rest => sign .exclamationMarkDoubleTilde rest
  | '~' :: rest => sign .exclamationMarkTilde rest
  | rest => sign .exclamationMark rest

def less (d : Dialect) : List Char → Step
  | '=' :: '>' :: rest => operator d .spaceship rest
  | '=' :: rest => operator d .ltEq rest
  | '>' :: rest => operator d .neq rest
  | '<' :: rest => operator d .shiftLeft rest
  | '@' :: rest => operator d .arrowAt rest
  | rest => operator d .lt rest

def greater (d : Dialect) : List Char → Step
  | '=' :: rest => operator d .gtEq rest
  | '>' :: rest => operator d .shiftRight rest
  | rest => operator d .gt rest

def colons : List Char → Step
  | ':' :: rest => sign .doubleColon rest
  | '=' :: rest => sign .assignment rest
  | rest => sign .colon rest

def ampersand (d : Dialect) : List Char → Step
  | '&' :: rest => operator d .overlap rest
  | rest => operator d .ampersand rest

def caret : List Char → Step
  | '@' :: rest => sign .caretAt rest
  | rest => sign .caret rest

def tilde (d : Dialect) : List Char → Step
  | '*' :: rest => operator d .tildeAsterisk rest
  | '~' :: '*' :: rest => operator d .doubleTildeAsterisk rest
  | '~' :: rest => operator d .doubleTilde rest
  | rest => operator d .tilde rest

def hash (d : Dialect) (rest : List Char) : Step :=
  if d = .mysql then lineComment "#" rest else
  match rest with
  | '-' :: rest => operator d .hashMinus rest
  | '>' :: '>' :: rest => operator d .hashLongArrow rest
  | '>' :: rest => operator d .hashArrow rest
  | ' ' :: _ => sign .sharp rest
  | c :: after => if d.startsWord '#' then wordFrom d ['#', c] after else operator d .sharp rest
  | [] => sign .sharp []

def atChar (d : Dialect) (rest : List Char) : Step :=
  match rest with
  | '>' :: rest => sign .atArrow rest
  | '?' :: rest => sign .atQuestion rest
  | '@' :: ' ' :: rest => sign .atAt (' ' :: rest)
  | '@' :: c :: after =>
    if d.startsWord '@' then wordFrom d ['@', '@', c] after else sign .atAt (c :: after)
  | ['@'] => sign .atAt []
  | ' ' :: _ => sign .atSign rest
  | c :: after => if d.startsWord '@' then wordFrom d ['@', c] after else sign .atSign rest
  | [] => sign .atSign []

/-- Where `?` is an operator it takes the character after it along. -/
def questionMark (d : Dialect) (rest : List Char) : Step :=
  if d = .postgres then
    match rest with
    | '|' :: rest => sign .questionPipe rest
    | '&' :: rest => sign .questionAnd rest
    | _ => sign .question rest.tail
  else
    .ok (.token (.parameter (String.ofList ('?' :: rest.takeWhile Text.isNumber))),
      rest.dropWhile Text.isNumber)

def punctuation? : Char → Option Symbol
  | '(' => some .lParen
  | ')' => some .rParen
  | ',' => some .comma
  | '+' => some .plus
  | '*' => some .mul
  | ';' => some .semiColon
  | '\\' => some .backslash
  | '[' => some .lBracket
  | ']' => some .rBracket
  | '{' => some .lBrace
  | '}' => some .rBrace
  | _ => none

def operator? (d : Dialect) (c : Char) : Option (List Char → Step) :=
  match c with
  | '-' => some (dash d)
  | '/' => some (slash d)
  | '%' => some (percent d)
  | '|' => some (bar d)
  | '=' => some equals
  | '!' => some bang
  | '<' => some (less d)
  | '>' => some (greater d)
  | ':' => some colons
  | '&' => some (ampersand d)
  | '^' => some caret
  | '~' => some (tilde d)
  | '#' => some (hash d)
  | '@' => some (atChar d)
  | '?' => some (questionMark d)
  | _ => none

def prefixed? (d : Dialect) : List Char → Option Step
  | c :: '\'' :: rest =>
    let text := '\'' :: rest
    match c.toUpper with
    | 'B' => if d = .generic then some (stringLiteral .singleBytes '\'' false text) else none
    | 'R' => if d = .generic then some (rawString .singleRaw .tripleSingleRaw '\'' text) else none
    | 'N' => some (stringLiteral .national '\'' true text)
    | 'E' => some (escapeString (c :: text))
    | 'X' => some (stringLiteral .hex '\'' true text)
    | _ => none
  | c :: '"' :: rest =>
    let text := '"' :: rest
    match c.toUpper with
    | 'B' => if d = .generic then some (stringLiteral .doubleBytes '"' false text) else none
    | 'R' => if d = .generic then some (rawString .doubleRaw .tripleDoubleRaw '"' text) else none
    | _ => none
  | c :: '&' :: '\'' :: rest =>
    if c.toUpper = 'U' && d.unicodeStrings then some (unicodeString rest) else none
  | _ => none

/-- Letters that may open a literal are read as words only, even where they make a number. -/
def opensLiteral (d : Dialect) (c : Char) : Bool :=
  match c.toUpper with
  | 'B' | 'R' => d = .generic
  | 'N' | 'E' | 'X' => true
  | 'U' => d.unicodeStrings
  | _ => false

def step (d : Dialect) : List Char → Step
  | [] => gap "" []
  | '\r' :: '\n' :: rest => gap "\n" rest
  | c :: rest =>
    if c = '\n' || c = '\r' then gap "\n" rest else
    if c = '\t' then gap "\t" rest else
    if c = ' ' then gap " " rest else
    match prefixed? d (c :: rest) with
    | some literal => literal
    | none =>
      if opensLiteral d c then plainWord d c rest
      else if c = '\'' then stringLiteral .single c d.backslashEscapes (c :: rest)
      else if c = '"' && !d.quotesName c then stringLiteral .double c d.backslashEscapes (c :: rest)
      else if d.quotesName c then quotedName c (c :: rest)
      else if c.isDigit || c = '.' then
        let (token, rest) := number d (c :: rest)
        .ok (.token token, rest)
      else
        match punctuation? c, operator? d c with
        | some s, _ => sign s rest
        | none, some read => read rest
        | none, none =>
          if d.startsWord c then wordFrom d [c] rest
          else if c = '$' then dollarToken (c :: rest)
          else if Text.isBlank c then gap " " rest
          else .ok (.token (.char c), rest)

def placeAfter : (n : Nat) → Position → List Char → Position
  | n + 1, place, c :: rest => placeAfter n (place.after c) rest
  | _, place, _ => place

def placeOf (place : Position) (text rest : List Char) : Position :=
  placeAfter (text.length - rest.length) place text

/-- Every step takes at least one character, so the length of the text bounds their number. The
third argument holds the gaps since the last token, the last of them first. -/
def tokensFrom (d : Dialect) : Nat → Position → List String → List Char → Array PlacedToken →
    Except SyntaxError (Array PlacedToken)
  | 0, _, gaps, _, read => .ok (read.push ⟨.ending, .ending, gaps.reverse⟩)
  | _ + 1, _, gaps, [], read => .ok (read.push ⟨.ending, .ending, gaps.reverse⟩)
  | fuel + 1, place, gaps, text, read =>
    match step d text with
    | .error stuck => .error (.lexical stuck.reason (placeOf place text stuck.rest))
    | .ok (.token token, rest) =>
      tokensFrom d fuel (placeOf place text rest) [] rest (read.push ⟨token, place, gaps.reverse⟩)
    | .ok (.gap g, rest) => tokensFrom d fuel (placeOf place text rest) (g :: gaps) rest read

def tokens (d : Dialect) (text : String) : Except SyntaxError (Array PlacedToken) :=
  tokensFrom d text.toList.length .start [] text.toList #[]

end RowFence.Sql.Lexer
