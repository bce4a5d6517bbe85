/-! The shortest decimal text of a binary floating point number that still reads back as it: the
fewest digits, and of those the nearest. -/

namespace RowFence.Decimal

/-- `digits · 10 ^ exponent` -/
structure Scaled where
  digits : Nat
  exponent : Int
  deriving DecidableEq, Repr

/-- `mantissa · 2 ^ exponent`, the absolute value of a finite number. The number below it is half
as far away as the one above if it is `narrow`. -/
structure Binary where
  mantissa : Nat
  exponent : Int
  narrow : Bool
  deriving DecidableEq, Repr

def Binary.ofBits (bits : Nat) : Binary :=
  let fraction := bits % Nat.pow 2 52
  let exponent : Nat := bits / Nat.pow 2 52 % Nat.pow 2 11
  if exponent = 0 then ⟨fraction, -1074, false⟩
  else ⟨Nat.pow 2 52 + fraction, (exponent : Int) - 1075, fraction = 0 && exponent > 1⟩

/-- `a · 10 ^ e ≤ b` -/
def leScaled (a : Nat) (e : Int) (b : Nat) : Bool :=
  match e with
  | .ofNat k => a * Nat.pow 10 k ≤ b
  | .negSucc k => a ≤ b * Nat.pow 10 (k + 1)

/-- `b ≤ a · 10 ^ e` -/
def geScaled (a : Nat) (e : Int) (b : Nat) : Bool :=
  match e with
  | .ofNat k => b ≤ a * Nat.pow 10 k
  | .negSucc k => b * Nat.pow 10 (k + 1) ≤ a

/-- The fraction `value / unit`, and the ends of the interval of numbers that read back as it. -/
structure Interval where
  low : Nat
  value : Nat
  high : Nat
  unit : Nat
  closed : Bool
  deriving DecidableEq, Repr

def Binary.interval (b : Binary) : Interval :=
  let up := Nat.pow 2 b.exponent.toNat
  let below := if b.narrow then 1 else 2
  { low := (4 * b.mantissa - below) * up
    value := 4 * b.mantissa * up
    high := (4 * b.mantissa + 2) * up
    unit := 4 * Nat.pow 2 (-b.exponent).toNat
    closed := b.mantissa % 2 = 0 }

namespace Interval

def holds (i : Interval) (s : Scaled) : Bool :=
  let point := s.digits * i.unit
  geScaled point s.exponent i.low && leScaled point s.exponent i.high
    && (i.closed || !(leScaled point s.exponent i.low || geScaled point s.exponent i.high))

/-- The number of digits before the point, or minus the number of zeros after it. -/
def magnitude (i : Interval) : Int :=
  let whole := i.value / i.unit
  if whole ≠ 0 then (Nat.toDigits 10 whole).length
  else
    match (List.range 400).find? fun k => i.unit ≤ i.value * Nat.pow 10 (k + 1) with
    | some k => -(k : Int)
    | none => 0

/-- The two neighbours of the value among the multiples of `10 ^ exponent`, the nearer one first. -/
def neighbours (i : Interval) (exponent : Int) : List Scaled :=
  let above := i.unit * Nat.pow 10 exponent.toNat
  let scaled := i.value * Nat.pow 10 (-exponent).toNat
  let d := scaled / above
  if 2 * (scaled % above) ≤ above then [⟨d, exponent⟩, ⟨d + 1, exponent⟩]
  else [⟨d + 1, exponent⟩, ⟨d, exponent⟩]

def shortest (i : Interval) : Scaled :=
  let candidates := (List.range 17).flatMap fun n : Nat => i.neighbours (i.magnitude - (n + 1))
  ((candidates.find? i.holds).orElse fun _ => candidates.getLast?).getD ⟨0, 0⟩

end Interval

/-- Positional from `0.00001` up to sixteen digits before the point, and with an exponent outside
of that. -/
def Scaled.spelling (s : Scaled) : String :=
  let digits := Nat.toDigits 10 s.digits
  let zeros := (digits.reverse.takeWhile (· = '0')).length
  let digits := digits.take (digits.length - zeros)
  let exponent := s.exponent + zeros
  let point := digits.length + exponent
  if 0 ≤ exponent ∧ point ≤ 16 then
    String.ofList (digits ++ List.replicate exponent.toNat '0') ++ ".0"
  else if 0 < point ∧ point ≤ 16 then
    String.ofList (digits.take point.toNat ++ '.' :: digits.drop point.toNat)
  else if -5 < point ∧ point ≤ 0 then
    "0." ++ String.ofList (List.replicate (-point).toNat '0' ++ digits)
  else
    let tail := digits.drop 1
    String.ofList (digits.take 1 ++ if tail.isEmpty then [] else '.' :: tail)
      ++ "e" ++ toString (point - 1)

def spelling (f : Float) : String :=
  let bits := f.toBits.toNat
  let sign := if bits / Nat.pow 2 63 = 1 then "-" else ""
  let b := Binary.ofBits (bits % Nat.pow 2 63)
  sign ++ if b.mantissa = 0 then "0.0" else b.interval.shortest.spelling

end RowFence.Decimal
