import RowFence.Sql.Dialect
import RowFence.Sql.Token

/-! Reading numbers, and words that start with digits. -/

namespace RowFence.Sql.Lexer

def isHexDigit (c : Char) : Bool := c.isDigit || ('a' ≤ c && c ≤ 'f') || ('A' ≤ c && c ≤ 'F')

def digits (text : List Char) : List Char × List Char :=
  (text.takeWhile Char.isDigit, text.dropWhile Char.isDigit)

def exponentMark : List Char → List Char × List Char
  | c :: rest =>
    if c = 'e' || c = 'E' then
      match rest with
      | '+' :: rest => ([c, '+'], rest)
      | '-' :: rest => ([c, '-'], rest)
      | _ => ([c], rest)
    else ([], c :: rest)
  | [] => ([], [])

/-- The text starts with a digit or a period. A mark of an exponent without digits is left unread. -/
def number (d : Dialect) (text : List Char) : Token × List Char :=
  let (whole, rest) := digits text
  match whole, rest with
  | ['0'], 'x' :: rest =>
    (.string .hex (String.ofList (rest.takeWhile isHexDigit)), rest.dropWhile isHexDigit)
  | _, _ =>
    let (point, rest) := match rest with | '.' :: rest => (['.'], rest) | _ => ([], rest)
    let (fraction, rest) := digits rest
    let read := whole ++ point ++ fraction
    if read = ['.'] then (.symbol .period, rest) else
    let (mark, afterMark) := exponentMark rest
    let (exponent, afterExponent) := digits afterMark
    let scaled := !mark.isEmpty && !exponent.isEmpty
    let read := if scaled then read ++ mark ++ exponent else read
    let rest := if scaled then afterExponent else rest
    let wordTail := rest.takeWhile d.continuesWord
    if d.digitsStartWord && mark.isEmpty && !wordTail.isEmpty then
      (.word (.plain (String.ofList (read ++ wordTail))), rest.dropWhile d.continuesWord)
    else
      match rest with
      | 'L' :: rest => (.number (String.ofList read) true, rest)
      | _ => (.number (String.ofList read) false, rest)

end RowFence.Sql.Lexer
