import RemoteWrite.Text.Utf8

/-!
Contract: hexadecimal digits.

Owns:
- the digit of a number below sixteen, in lower case and in upper case;
- the value of a digit in either case;
- the lower-case numeral of a number, and the value of a run of digits;
- byte strings as text, with two digits for each byte.

Does not own: the markers that introduce hexadecimal numerals.
-/

namespace RemoteWrite.Text.Hexadecimal

def digitChar (n : Nat) : Char :=
  if n < 10 then Char.ofNat (48 + n) else Char.ofNat (87 + n)

def upperDigitChar (n : Nat) : Char :=
  if n < 10 then Char.ofNat (48 + n) else Char.ofNat (55 + n)

def digit? (c : Char) : Option Nat :=
  if '0' ≤ c ∧ c ≤ '9' then some (c.toNat - 48)
  else if 'a' ≤ c ∧ c ≤ 'f' then some (c.toNat - 87)
  else if 'A' ≤ c ∧ c ≤ 'F' then some (c.toNat - 55)
  else none

/-- The lower-case digits of a number, without padding. -/
def digits (n : Nat) : List Char :=
  Nat.toDigits 16 n

/-- The value of a run of digits, which is zero if there are none. -/
def value? (text : List Char) : Option Nat :=
  text.foldlM (fun value c => (digit? c).map (16 * value + ·)) 0

def encode (bytes : Bytes) : String :=
  bytes.foldl (fun (text : String) byte =>
    (text.push (digitChar (byte.toNat / 16))).push (digitChar (byte.toNat % 16))) ""

/-- Read pairs of digits after the bytes read already, which are in reverse. -/
def decodeFrom? (read : Bytes) : List Char → Option Bytes
  | [] => some read.reverse
  | high :: low :: rest =>
    match digit? high, digit? low with
    | some high, some low => decodeFrom? (UInt8.ofNat (16 * high + low) :: read) rest
    | _, _ => none
  | [_] => none

def decode? (text : String) : Option Bytes :=
  decodeFrom? [] text.toList

end RemoteWrite.Text.Hexadecimal
