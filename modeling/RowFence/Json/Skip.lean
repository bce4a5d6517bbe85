import RowFence.Json.Text
import RowFence.Json.Number

/-! Values that are read over: their syntax is checked, to any depth, and nothing else. -/

namespace RowFence.Json.Reader

inductive Frame where
  | list | object
  deriving DecidableEq, Repr

namespace Frame

def closing : Frame → Char
  | list => ']'
  | object => '}'

def unended : Frame → Reason
  | list => .endOfList
  | object => .endOfObject

def wantsEnd : Frame → Reason
  | list => .wantsListEnd
  | object => .wantsObjectEnd

end Frame

def skipEscape : Reader Unit := do
  match ← peek with
  | none => fail .endOfString
  | some 'u' =>
    skip
    let _ ← fourDigits
  | some c => if (simpleEscape? c).isSome then skip else failAhead .escape

def skipCharacters : (bound : Nat) → Reader Unit
  | 0 => fail .endOfString
  | bound + 1 => do
    match ← peek with
    | none => fail .endOfString
    | some '"' => skip
    | some '\\' =>
      skip
      skipEscape
      skipCharacters bound
    | some c =>
      if c < ' ' then fail .controlCharacter
      skip
      skipCharacters bound

def skipQuoted : Reader Unit := do
  skip
  skipCharacters (← bound)

def skipDigits : Reader Unit := do
  let _ ← takeWhile Char.isDigit

def wantDigit : Reader Unit := do
  match ← peek with
  | some c => if !c.isDigit then failAhead .number
  | none => fail .number

def skipNumber : Reader Unit := do
  if (← peek) == some '-' then skip
  wantDigit
  if (← peek) == some '0' then
    skip
    if ((← peek).map Char.isDigit).getD false then failAhead .number
  else skipDigits
  if (← peek) == some '.' then
    skip
    match ← peek with
    | some c => if !c.isDigit then failAhead .number
    | none => failAhead .number
    skipDigits
  if isExponentMark (← peek) then
    skip
    let sign ← peek
    if sign == some '+' || sign == some '-' then skip
    wantDigit
    skipDigits

def skipStart : Reader (Option Frame) := do
  match ← first with
  | 'n' =>
    word ['n', 'u', 'l', 'l']
    return none
  | 't' =>
    word ['t', 'r', 'u', 'e']
    return none
  | 'f' =>
    word ['f', 'a', 'l', 's', 'e']
    return none
  | '"' =>
    skipQuoted
    return none
  | '[' =>
    skip
    return some .list
  | '{' =>
    skip
    return some .object
  | c =>
    if c != '-' && !c.isDigit then failAhead .wantsValue
    skipNumber
    return none

/-- Reads over closing brackets. A comma ends that after a value, anything else at the start of a
bracket. What is open then comes back. -/
def skipEnds : (frames : List Frame) → (afterValue : Bool) → Reader (List Frame)
  | [], _ => return []
  | f :: fs, afterValue => do
    match ← blanks with
    | none => failAhead f.unended
    | some c =>
      if c == ',' && afterValue then
        skip
        return f :: fs
      else if c == f.closing then
        skip
        skipEnds fs true
      else if afterValue then failAhead f.wantsEnd
      else return f :: fs

def skipKey : Reader Unit := do
  match ← blanks with
  | some '"' => skipQuoted
  | some _ => failAhead .key
  | none => failAhead .endOfObject
  colon

def skipWithin : (bound : Nat) → List Frame → Reader Unit
  | 0, _ => return ()
  | bound + 1, frames => do
    let opened? ← skipStart
    let opened := opened?.toList ++ frames
    match ← skipEnds opened opened?.isNone with
    | [] => return ()
    | f :: fs =>
      if f = .object then skipKey
      skipWithin bound (f :: fs)

def skipValue : Reader Unit := do skipWithin (← bound) []

end RowFence.Json.Reader
