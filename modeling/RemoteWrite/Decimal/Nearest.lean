import RemoteWrite.Wire.Scalar

/-!
Contract: the floating-point number nearest to a fraction.

Owns: rounding of a positive fraction to 53 bits, or to fewer near zero, with
ties to even, and to infinity beyond the largest number.

Does not own: decimals.
-/

namespace RemoteWrite.Decimal

/-- The fraction rounded to the nearest natural number, ties to even. -/
def roundDiv (numerator denominator : Nat) : Nat :=
  let floor := numerator / denominator
  let rest := 2 * (numerator % denominator)
  if denominator < rest || (rest = denominator && floor % 2 = 1) then floor + 1 else floor

/-- The exponent of the highest bit of a positive fraction. -/
def highestBit (numerator denominator : Nat) : Int :=
  let guess : Int := (numerator.log2 : Int) - denominator.log2
  if numerator * 2 ^ (-guess).toNat < denominator * 2 ^ guess.toNat then guess - 1 else guess

/-- The number nearest to a fraction. A rounding up to the next power of two
carries into the exponent by itself. -/
def nearest (numerator denominator : Nat) : Binary64 :=
  if numerator = 0 ∨ denominator = 0 then .zero
  else
    let unit : Int := max (highestBit numerator denominator - 52) (-1074)
    let significand := roundDiv (numerator * 2 ^ (-unit).toNat) (denominator * 2 ^ unit.toNat)
    let bits := (unit + 1074).toNat * 2 ^ 52 + significand
    ⟨UInt64.ofNat (min bits (2047 * 2 ^ 52))⟩

end RemoteWrite.Decimal
