import RowFence.Json.Reader

/-! JSON strings. -/

namespace RowFence.Json.Reader

def hexValue? (c : Char) : Option Nat :=
  if c.isDigit then some (c.toNat - '0'.toNat)
  else if 'a' ≤ c && c ≤ 'f' then some (c.toNat - 'a'.toNat + 10)
  else if 'A' ≤ c && c ≤ 'F' then some (c.toNat - 'A'.toNat + 10)
  else none

def hexNumber? (digits : List Char) : Option Nat :=
  (digits.mapM hexValue?).map (·.foldl (16 * · + ·) 0)

def fourDigits : Reader Nat := do
  let c ← get
  if c.rest.foldl (· + ·.utf8Size) 0 < 4 then
    failAt .endOfString (c.rest.foldl .after c.place)
  match hexNumber? (c.rest.take 4) with
  | none => failAt .escape (placeAfter 4 c.place c.rest)
  | some n =>
    set (Cursor.mk (c.rest.drop 4) (placeAfter 4 c.place c.rest))
    return n

/-- A character that has to follow the first half of a surrogate pair. -/
def surrogateMark (mark : Char) : Reader Unit := do
  match ← peek with
  | none => fail .endOfString
  | some c => if c = mark then skip else failAhead .brokenSurrogate

def unicodeEscape : Reader Char := do
  let n ← fourDigits
  if 0xDC00 ≤ n && n ≤ 0xDFFF then fail .loneSurrogate
  if n < 0xD800 || 0xDBFF < n then return .ofNat n
  surrogateMark '\\'
  surrogateMark 'u'
  let m ← fourDigits
  if m < 0xDC00 || 0xDFFF < m then fail .loneSurrogate
  return .ofNat ((n - 0xD800) * 0x400 + (m - 0xDC00) + 0x10000)

def simpleEscape? : Char → Option Char
  | '"' => some '"'
  | '\\' => some '\\'
  | '/' => some '/'
  | 'b' => some '\x08'
  | 'f' => some '\x0c'
  | 'n' => some '\n'
  | 'r' => some '\r'
  | 't' => some '\t'
  | _ => none

def escape : Reader Char := do
  match ← peek with
  | none => fail .endOfString
  | some 'u' =>
    skip
    unicodeEscape
  | some c =>
    match simpleEscape? c with
    | some d =>
      skip
      return d
    | none => failAhead .escape

def characters : (bound : Nat) → Reader (List Char)
  | 0 => fail .endOfString
  | bound + 1 => do
    match ← peek with
    | none => fail .endOfString
    | some '"' =>
      skip
      return []
    | some '\\' =>
      skip
      let c ← escape
      return c :: (← characters bound)
    | some c =>
      skip
      if c < ' ' then fail .controlCharacter
      return c :: (← characters bound)

def quoted : Reader String := do
  skip
  return .ofList (← characters (← bound))

end RowFence.Json.Reader
