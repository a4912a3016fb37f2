import RemoteWrite.Natural
import RemoteWrite.Text.Utf8

/-!
Contract: the elements of a snappy block.

A compressed block is the length of the uncompressed data, followed by
elements. An element is a run of literal bytes or a copy of bytes that were
written before. A copy may reach into the bytes it writes itself.

Owns:
- the elements and what each appends to the data so far;
- the written form of an element;
- the length in front, as a variable-length number.

Does not own: the choice of elements, or the reading of a block.
-/

namespace RemoteWrite.Snappy

def maxLength : Nat := 2 ^ 32 - 1

inductive Element where
  | literal (bytes : Bytes)
  /-- The `length` bytes from `offset` bytes back on. -/
  | copy (offset length : Nat)
deriving DecidableEq, Repr

/-- Append bytes from `offset` back, one at a time, so that a copy reads what
it wrote. -/
def copyBytes (offset : Nat) : (length : Nat) → Array UInt8 → Option (Array UInt8)
  | 0, output => some output
  | length + 1, output =>
    if offset = 0 then none
    else
      match output[output.size - offset]? with
      | none => none
      | some byte =>
        if offset ≤ output.size then copyBytes offset length (output.push byte) else none

/-- Append what an element stands for. -/
def Element.apply (output : Array UInt8) : Element → Option (Array UInt8)
  | .literal bytes => some (output ++ bytes)
  | .copy offset length =>
    if 0 < offset ∧ offset ≤ output.size then copyBytes offset length output else none

/-- The low `count` bytes of a number, lowest first. -/
def lowBytes : (count : Nat) → Nat → Bytes
  | 0, _ => []
  | count + 1, n => UInt8.ofNat n :: lowBytes count (n / 256)

namespace Element

/-- The written form of a literal of 1 to 65536 bytes or of a copy. A copy is
written short if its length is from 4 to 11 and its offset below 2048. -/
def write : Element → Bytes
  | literal bytes =>
    let last := bytes.length - 1
    if last < 60 then UInt8.ofNat (last * 4) :: bytes
    else if last < 256 then UInt8.ofNat (60 * 4) :: (lowBytes 1 last ++ bytes)
    else UInt8.ofNat (61 * 4) :: (lowBytes 2 last ++ bytes)
  | copy offset length =>
    if 4 ≤ length ∧ length ≤ 11 ∧ offset < 2048 then
      UInt8.ofNat (offset / 256 * 32 + (length - 4) * 4 + 1) :: lowBytes 1 offset
    else UInt8.ofNat ((length - 1) * 4 + 2) :: lowBytes 2 offset

end Element

/-- The length in front of a block, in groups of seven bits, lowest first. -/
def lengthPreamble (n : Nat) : Bytes :=
  if n < 128 then [UInt8.ofNat n] else UInt8.ofNat (n % 128 + 128) :: lengthPreamble (n / 128)
termination_by n

end RemoteWrite.Snappy
