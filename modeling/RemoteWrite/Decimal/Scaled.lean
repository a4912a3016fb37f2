import RemoteWrite.Decimal.Nearest

/-!
Contract: the floating-point number of a decimal, by rounded steps.

A decimal is a significand times a power of ten. The significand and the power
are rounded, and then their product or quotient is. The result is often the
nearest number to the decimal, and otherwise close to it.

Owns: the steps, and the number that they arrive at.

Does not own: the text of decimals.
-/

namespace RemoteWrite.Decimal

/-- A number that is not negative and finite, as a fraction. -/
def fraction (x : Binary64) : Nat × Nat :=
  let low := x.bits.toNat % 2 ^ 52
  let biased := x.bits.toNat / 2 ^ 52 % 2048
  let significand := if biased = 0 then low else low + 2 ^ 52
  let exponent : Int := (max biased 1 : Nat) - 1075
  (significand * 2 ^ exponent.toNat, 2 ^ (-exponent).toNat)

/-- The rounded product of two numbers that are not negative. -/
def times (x y : Binary64) : Binary64 :=
  nearest ((fraction x).1 * (fraction y).1) ((fraction x).2 * (fraction y).2)

/-- The rounded quotient of two numbers that are not negative. -/
def dividedBy (x y : Binary64) : Binary64 :=
  nearest ((fraction x).1 * (fraction y).2) ((fraction x).2 * (fraction y).1)

def isFinite (x : Binary64) : Bool :=
  x.bits.toNat < 2047 * 2 ^ 52

/-- The greatest power of ten that is a number. -/
def maxPower : Nat := 308

/-- The number nearest to a power of ten. -/
def power (exponent : Nat) : Binary64 := nearest (10 ^ exponent) 1

/-- Divide by a power of ten, at most the greatest one at a time, until nothing
is left. -/
def lower (x : Binary64) (exponent : Nat) : Binary64 :=
  if maxPower < exponent then
    if x.isZero then x else lower (dividedBy x (power maxPower)) (exponent - maxPower)
  else dividedBy x (power exponent)
termination_by exponent
decreasing_by
  unfold maxPower at *
  omega

/-- Multiply by a power of ten. There is no result beyond the largest number. -/
def raise? (x : Binary64) (exponent : Nat) : Option Binary64 :=
  if x.isZero then some x
  else if maxPower < exponent then none
  else
    let raised := times x (power exponent)
    if isFinite raised then some raised else none

/-- The number of a significand times a power of ten. -/
def ofScaled? (significand : Nat) (exponent : Int) : Option Binary64 :=
  let x := nearest significand 1
  if 0 ≤ exponent then raise? x exponent.toNat else some (lower x (-exponent).toNat)

/-- The number with the opposite sign of a positive one. -/
def negate (x : Binary64) : Binary64 := ⟨x.bits ||| 0x8000000000000000⟩

end RemoteWrite.Decimal
