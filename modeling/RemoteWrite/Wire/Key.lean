import RemoteWrite.Wire.Varint

/-!
Contract: the keys in front of fields, and fields that are not declared.

Owns:
- a key as the number of a field and its encoding;
- reading and writing a key;
- skipping a field of any encoding, groups included.

Does not own: declared fields.
-/

namespace RemoteWrite.Wire

/-- The number of a field and how its value is encoded. -/
structure Key where
  number : Nat
  wireType : WireType
deriving DecidableEq, Repr

namespace Key

def value (key : Key) : Nat :=
  key.number * 8 + key.wireType.code

def write (key : Key) : Bytes :=
  varint key.value

def size (key : Key) : Nat :=
  varintSize key.value

/-- Read a key: a number of 32 bits with a known encoding and a nonzero field
number, checked in this order. -/
def read (input : Input) : Except Fault (Key × Input) :=
  match readVarint input with
  | .error fault => .error fault
  | .ok (value, rest) =>
    if 2 ^ 32 ≤ value.toNat then .error (.invalidKey value.toNat)
    else
      match WireType.ofCode? (value.toNat % 8) with
      | none => .error (.unknownWireType (value.toNat % 8))
      | some wireType =>
        if value.toNat / 8 = 0 then .error .zeroFieldNumber
        else .ok (⟨value.toNat / 8, wireType⟩, rest)

end Key

/-- Skip the fields of a group up to the end key with its number. -/
def skipGroup (skip : Key → Input → Except Fault Input) (number : Nat) (input : Input) :
    Except Fault Input :=
  match Key.read input with
  | .error fault => .error fault
  | .ok (key, rest) =>
    if key.wireType = .endGroup then
      if key.number = number then .ok rest else .error .unexpectedGroupEnd
    else
      match skip key rest with
      | .error fault => .error fault
      | .ok last =>
        if last.size < input.size then skipGroup skip number last
        else .error .invalidVarint
termination_by input.size

/-- Skip the value of a field. A group hands one less than its own recursion
budget to its fields. -/
def skipField : (budget : Nat) → Key → Input → Except Fault Input
  | 0, _, _ => .error .recursionLimit
  | budget + 1, key, input =>
    match key.wireType with
    | .varint =>
      match readVarint input with
      | .error fault => .error fault
      | .ok (_, rest) => .ok rest
    | .sixtyFourBit => input.skip 8
    | .thirtyTwoBit => input.skip 4
    | .lengthDelimited =>
      match readVarint input with
      | .error fault => .error fault
      | .ok (length, rest) => rest.skip length.toNat
    | .startGroup => skipGroup (skipField budget) key.number input
    | .endGroup => .error .unexpectedGroupEnd

end RemoteWrite.Wire
