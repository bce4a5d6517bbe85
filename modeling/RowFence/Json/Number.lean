import RowFence.Json.Reader
import RowFence.Decimal.Shortest

/-! JSON numbers: integers of 64 bits, and floating point numbers for all others. -/

namespace RowFence.Json

inductive Number where
  | int (value : Int)
  | real (value : Float)
  deriving Repr

def Number.description : Number → String
  | int value => "integer " ++ ticked (toString value)
  | real value => "floating point " ++ ticked (Decimal.spelling value)

/-- Appends digits to a number as long as it stays below `2 ^ 64`; the others are left over. -/
def gather (n : Nat) : List Char → Nat × List Char
  | [] => (n, [])
  | d :: ds =>
    let m := 10 * n + (d.toNat - '0'.toNat)
    if m < 2 ^ 64 then gather m ds else (n, d :: ds)

def power (n : Nat) : Float := .ofScientific 1 false n

/-- `f · 10 ^ e`, by one multiplication or division if the power is a number; nothing if the
result is too large. -/
def scaled? (f : Float) (e : Int) : Option Float :=
  if e.natAbs ≤ 308 then
    if 0 ≤ e then
      let g := f * power e.toNat
      if g.isInf then none else some g
    else some (f / power (-e).toNat)
  else if f == 0 then some f
  else if 0 ≤ e then none
  else scaled? (f / power 308) (e + 308)
termination_by e.natAbs

namespace Reader

structure Exponent where
  negative : Bool
  size? : Option Nat
  deriving DecidableEq, Repr

def exponentDigits (n : Nat) : (bound : Nat) → Reader (Option Nat)
  | 0 => return some n
  | bound + 1 => do
    match ← peek with
    | none => return some n
    | some c =>
      if !c.isDigit then return some n
      skip
      let m := 10 * n + (c.toNat - '0'.toNat)
      if m < 2 ^ 31 then exponentDigits m bound else return none

def exponent : Reader Exponent := do
  skip
  let sign ← peek
  if sign == some '+' || sign == some '-' then skip
  match ← peek with
  | none => fail .endOfValue
  | some c =>
    if !c.isDigit then failAhead .number
    return ⟨sign == some '-', ← exponentDigits 0 (← bound)⟩

def fraction : Reader (List Char) := do
  skip
  let digits ← takeWhile Char.isDigit
  if digits.isEmpty then
    if (← peek).isSome then failAhead .number else failAhead .endOfValue
  return digits

/-- The digits before the point: at least one, and no other after a leading zero. -/
def wholeDigits : Reader (List Char) := do
  match ← peek with
  | none => fail .endOfValue
  | some '0' =>
    skip
    if ((← peek).map Char.isDigit).getD false then failAhead .number
    return ['0']
  | some c =>
    if !c.isDigit then failAhead .number
    takeWhile Char.isDigit

def isExponentMark (c? : Option Char) : Bool := c? == some 'e' || c? == some 'E'

def signed (negative : Bool) (f : Float) : Float := if negative then -f else f

/-- An integer without fraction and exponent, if it has 64 bits; a zero with a sign is none. -/
def integer? (negative : Bool) (n : Nat) : Option Int :=
  if !negative then some n else if n ≠ 0 && n ≤ Nat.pow 2 63 then some (-n) else none

def number : Reader Number := do
  let negative := (← peek) == some '-'
  if negative then skip
  let (n, left) := gather 0 (← wholeDigits)
  let hasFraction := (← peek) == some '.'
  let digits ← if hasFraction then fraction else pure []
  let (m, lost) := gather n digits
  let scale : Int := left.length - (digits.length - lost.length : Nat)
  if isExponentMark (← peek) then
    let e ← exponent
    match e.size? with
    | some size =>
      match scaled? m.toFloat (if e.negative then scale - size else scale + size) with
      | some f => return .real (signed negative f)
      | none => fail .hugeNumber
    | none =>
      if m ≠ 0 && !e.negative then fail .hugeNumber
      let _ ← takeWhile Char.isDigit
      return .real (signed negative 0)
  else
    match if hasFraction || !left.isEmpty then none else integer? negative n with
    | some i => return .int i
    | none =>
      match scaled? m.toFloat scale with
      | some f => return .real (signed negative f)
      | none => fail .hugeNumber

end Reader

end RowFence.Json
