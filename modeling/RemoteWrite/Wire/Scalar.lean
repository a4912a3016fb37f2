import RemoteWrite.Wire.Key

/-!
Contract: the encodings of single values.

Owns:
- the shape of a scalar encoding: its wire type, writing, size, and reading;
- unsigned, signed, and zigzag integers of 32 and 64 bits;
- floating-point numbers as their bit patterns;
- texts.

Does not own: field numbers, repetition, or the omission of defaults.
-/

namespace RemoteWrite

/-- A binary floating-point number of 64 bits, given by its bits so that the
payload of a NaN and the sign of a zero are kept. -/
structure Binary64 where
  bits : UInt64
deriving DecidableEq, Repr

namespace Binary64

def zero : Binary64 := ⟨0⟩

/-- The number compares equal to zero, whatever its sign. -/
def isZero (x : Binary64) : Bool :=
  x.bits = 0 || x.bits = 0x8000000000000000

def positiveZero (x : Binary64) : Binary64 :=
  if x.isZero then zero else x

/-- The number nearest to a natural number below `2 ^ 64`; of two equally near
ones, the one with an even significand. -/
def ofNat (n : Nat) : Binary64 :=
  if n = 0 then zero
  else
    let exponent := n.log2
    if exponent ≤ 52 then
      ⟨UInt64.ofNat ((exponent + 1023) * 2 ^ 52 + (n * 2 ^ (52 - exponent) - 2 ^ 52))⟩
    else
      let unit := 2 ^ (exponent - 52)
      let low := n % unit
      let floor := n / unit
      let rounded :=
        if unit < 2 * low || (2 * low = unit && floor % 2 = 1) then floor + 1 else floor
      ⟨UInt64.ofNat ((exponent + 1023) * 2 ^ 52 + (rounded - 2 ^ 52))⟩

end Binary64

namespace Wire

structure Scalar (α : Type) where
  wireType : WireType
  write : α → Bytes
  size : α → Nat
  read : Input → Except Fault (α × Input)

/-- The natural number that stands for a signed one, small for small absolute
values. -/
def zigzag (n : Int) : Nat :=
  if 0 ≤ n then 2 * n.toNat else 2 * (-n).toNat - 1

/-- The signed number that a natural number stands for. -/
def unzigzag (n : Nat) : Int :=
  if n % 2 = 0 then (n / 2 : Nat) else -((n / 2 : Nat) : Int) - 1

/-- The eight bytes of a bit pattern, lowest first. -/
def littleEndian (bits : UInt64) : Bytes :=
  (List.range 8).map fun index => UInt8.ofNat (bits.toNat / 256 ^ index)

/-- The bit pattern of bytes, lowest first. -/
def ofLittleEndian : Bytes → Nat
  | [] => 0
  | byte :: rest => byte.toNat + 256 * ofLittleEndian rest

namespace Scalar

/-- An encoding as a varint, by the number that stands for a value and the
value that a number of 64 bits stands for. -/
def ofVarint {α : Type} (toNumber : α → Nat) (ofNumber : UInt64 → α) : Scalar α where
  wireType := .varint
  write value := varint (toNumber value)
  size value := varintSize (toNumber value)
  read input :=
    match readVarint input with
    | .error fault => .error fault
    | .ok (number, rest) => .ok (ofNumber number, rest)

def uint64 : Scalar UInt64 :=
  ofVarint UInt64.toNat id

/-- Reading keeps the low 32 bits. -/
def uint32 : Scalar UInt32 :=
  ofVarint UInt32.toNat UInt64.toUInt32

/-- A negative number is written as its 64-bit two's complement. -/
def int64 : Scalar Int64 :=
  ofVarint (fun value => value.toUInt64.toNat) UInt64.toInt64

/-- A negative number is written as its 64-bit two's complement; reading keeps
the low 32 bits. -/
def int32 : Scalar Int32 :=
  ofVarint (fun value => value.toInt64.toUInt64.toNat) fun number => number.toUInt32.toInt32

def sint64 : Scalar Int64 :=
  ofVarint (fun value => zigzag value.toInt) fun number => Int64.ofInt (unzigzag number.toNat)

/-- Reading keeps the low 32 bits of the number before it takes their sign. -/
def sint32 : Scalar Int32 :=
  ofVarint (fun value => zigzag value.toInt)
    fun number => Int32.ofInt (unzigzag number.toUInt32.toNat)

def double : Scalar Binary64 where
  wireType := .sixtyFourBit
  write value := littleEndian value.bits
  size _ := 8
  read input :=
    match input.take 8 with
    | .error fault => .error fault
    | .ok (bytes, rest) => .ok (⟨UInt64.ofNat (ofLittleEndian bytes)⟩, rest)

/-- The length in bytes and then the UTF-8 bytes. -/
def text : Scalar String where
  wireType := .lengthDelimited
  write value := varint (Text.utf8 value).length ++ Text.utf8 value
  size value := varintSize value.utf8ByteSize + value.utf8ByteSize
  read input :=
    match readVarint input with
    | .error fault => .error fault
    | .ok (length, rest) =>
      match rest.take length.toNat with
      | .error fault => .error fault
      | .ok (bytes, rest) =>
        match Text.ofUtf8? bytes with
        | none => .error .invalidText
        | some value => .ok (value, rest)

end Scalar
end Wire
end RemoteWrite
