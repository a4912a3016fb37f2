import RemoteWrite.Natural

/-!
Contract: unsigned decimal numerals.

Owns:
- writing a natural number in decimal without leading zeros;
- reading a numeral of ASCII digits, with at most one leading plus sign and
  any number of leading zeros, that denotes a number below a bound.

Does not own: signs other than the plus, grouping, fractions, or exponents.
-/

namespace RemoteWrite.Text.Numeral

def digitChar (digit : Nat) : Char :=
  Char.ofNat (48 + digit)

/-- The decimal digits of a number, most significant first. -/
def digits (n : Nat) : List Char :=
  if n < 10 then [digitChar n] else digits (n / 10) ++ [digitChar (n % 10)]
termination_by n

def render (n : Nat) : String :=
  String.ofList (digits n)

def digit? (c : Char) : Option Nat :=
  if 48 ≤ c.toNat ∧ c.toNat ≤ 57 then some (c.toNat - 48) else none

/-- Extend the value of the digits read so far by more digits. -/
def valueFrom : Nat → List Char → Option Nat
  | value, [] => some value
  | value, c :: rest =>
    match digit? c with
    | some d => valueFrom (10 * value + d) rest
    | none => none

/-- The value of a nonempty run of ASCII digits. -/
def value? : List Char → Option Nat
  | [] => none
  | text => valueFrom 0 text

/-- Read a numeral with an optional plus sign that denotes a number below
`bound`. -/
def parse? (bound : Nat) (text : List Char) : Option Nat :=
  let unsigned :=
    match text with
    | '+' :: rest => rest
    | _ => text
  match value? unsigned with
  | some n => if n < bound then some n else none
  | none => none

def parseUInt64? (text : List Char) : Option UInt64 :=
  (parse? (2 ^ 64) text).map UInt64.ofNat

end RemoteWrite.Text.Numeral
