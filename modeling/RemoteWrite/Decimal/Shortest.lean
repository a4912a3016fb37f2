import RemoteWrite.Text.Numeral
import RemoteWrite.Text.WhiteSpace
import RemoteWrite.Wire.Scalar

/-!
Contract: the shortest decimal text of a floating-point number.

Among the decimals that read back as the number, those of the fewest digits
are taken, and of these the nearest. All arithmetic is exact: a number is a
significand times a power of two, and the decimals that read back as it form
an interval between the halfway points to its neighbours.

Owns:
- the interval of a number;
- its shortest digits with their decimal exponent;
- the text: positional for exponents from -5 to 15, scientific otherwise.

Does not own: the reading of decimals.
-/

namespace RemoteWrite.Decimal

/-- Digits and the power of ten that the last one counts. -/
structure Digits where
  significand : Nat
  exponent : Int
deriving DecidableEq, Repr

/-- A positive number `value`, with the ends of its interval, as multiples of
`numerator / denominator`. The ends belong to the interval if `closed`. -/
structure Interval where
  low : Nat
  value : Nat
  high : Nat
  numerator : Nat
  denominator : Nat
  closed : Bool

/-- The interval of a positive finite number. The lower neighbour of a power
of two is twice as near as the upper one. -/
def Interval.ofBits (bits : Nat) : Interval :=
  let fraction := bits % 2 ^ 52
  let biased := bits / 2 ^ 52 % 2048
  let significand := if biased = 0 then fraction else fraction + 2 ^ 52
  let exponent : Int := (max biased 1 : Nat) - 1077
  { low := 4 * significand - (if fraction = 0 ∧ 1 < biased then 1 else 2)
    value := 4 * significand
    high := 4 * significand + 2
    numerator := 2 ^ exponent.toNat
    denominator := 2 ^ (-exponent).toNat
    closed := significand % 2 = 0 }

namespace Interval

def contains (interval : Interval) (digits : Digits) : Bool :=
  let decimal := digits.significand * 10 ^ digits.exponent.toNat * interval.denominator
  let scale := interval.numerator * 10 ^ (-digits.exponent).toNat
  if interval.closed then interval.low * scale ≤ decimal && decimal ≤ interval.high * scale
  else interval.low * scale < decimal && decimal < interval.high * scale

/-- The decimals next to the value on the grid of a power of ten, and whether
the lower one is the nearer. -/
def neighbours (interval : Interval) (exponent : Int) : Digits × Digits × Bool :=
  let value := interval.value * interval.numerator * 10 ^ (-exponent).toNat
  let unit := interval.denominator * 10 ^ exponent.toNat
  let floor := value / unit
  let rest := value % unit
  (⟨floor, exponent⟩, ⟨floor + 1, exponent⟩,
    2 * rest < unit || (2 * rest = unit && floor % 2 = 0))

/-- The nearest decimal in the interval on the grid of a power of ten. -/
def nearest? (interval : Interval) (exponent : Int) : Option Digits :=
  let (below, above, belowIsNearer) := interval.neighbours exponent
  if belowIsNearer && interval.contains below then some below
  else if interval.contains above then some above
  else if interval.contains below then some below
  else none

/-- The largest power of ten that is not above the value. -/
def magnitude (interval : Interval) : Int :=
  let value := interval.value * interval.numerator
  if interval.denominator ≤ value then
    ((Text.Numeral.digits (value / interval.denominator)).length : Int) - 1
  else
    -(((List.range 400).find? fun power =>
      interval.denominator ≤ value * 10 ^ power).getD 400 : Int)

/-- The shortest digits: the coarsest grid with a decimal in the interval. -/
def shortest (interval : Interval) : Digits :=
  let magnitude := interval.magnitude
  (((List.range 18).findSome? fun (places : Nat) =>
    interval.nearest? (magnitude - (places : Nat)))).getD ⟨0, 0⟩

end Interval

/-- The text of a decimal of at least one digit. -/
def Digits.render (digits : Digits) : String :=
  let written := Text.Numeral.digits digits.significand
  let trimmed := Text.dropEndWhile (· = '0') written
  let count := (trimmed.length : Int)
  let point := digits.exponent + (written.length : Int)
  let text :=
    if -5 < point ∧ point ≤ 0 then
      ['0', '.'] ++ List.replicate (-point).toNat '0' ++ trimmed
    else if 0 < point ∧ point ≤ 16 then
      if count ≤ point then trimmed ++ List.replicate (point - count).toNat '0' ++ ['.', '0']
      else trimmed.take point.toNat ++ ['.'] ++ trimmed.drop point.toNat
    else
      let power := Text.Numeral.digits (point - 1).natAbs
      let fraction := trimmed.drop 1
      trimmed.take 1 ++ (if fraction.isEmpty then [] else '.' :: fraction) ++
        ['e', if point ≤ 0 then '-' else '+'] ++ power
  String.ofList text

def render (x : Binary64) : String :=
  let sign := if x.bits < 0x8000000000000000 then "" else "-"
  if x.isZero then sign ++ "0.0"
  else sign ++ (Interval.ofBits (x.bits.toNat % 2 ^ 63)).shortest.render

end RemoteWrite.Decimal
