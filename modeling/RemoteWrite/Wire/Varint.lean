import RemoteWrite.Wire.Input

/-!
Contract: variable-length integers.

A number is written in groups of seven bits, lowest first, one byte each; all
but the last byte have the high bit set.

Owns:
- writing a number in the fewest groups;
- the length of that form, computed without writing it;
- reading up to ten groups that denote a number of 64 bits, also with
  superfluous zero groups;
- reading a length-delimited value by repeated steps.

Does not own: signed numbers.
-/

namespace RemoteWrite.Wire

/-- The shortest form of a number. -/
def varint (n : Nat) : Bytes :=
  if n < 128 then [UInt8.ofNat n] else UInt8.ofNat (n % 128 + 128) :: varint (n / 128)
termination_by n

/-- The length of the shortest form of a number of 64 bits, from its binary
logarithm alone. -/
def varintSize (n : Nat) : Nat :=
  ((max n 1).log2 * 9 + 73) / 64

/-- Read at most `groups` groups. -/
def readGroups : Nat → Input → Except Fault (Nat × Input)
  | 0, _ => .error .invalidVarint
  | groups + 1, input =>
    match input.next? with
    | none => .error .invalidVarint
    | some (byte, rest) =>
      if byte < 0x80 then .ok (byte.toNat, rest)
      else
        match readGroups groups rest with
        | .error fault => .error fault
        | .ok (high, rest) => .ok (byte.toNat - 128 + 128 * high, rest)

def readVarint (input : Input) : Except Fault (UInt64 × Input) :=
  match readGroups 10 input with
  | .error fault => .error fault
  | .ok (n, rest) =>
    if n < 2 ^ 64 then .ok (UInt64.ofNat n, rest) else .error .invalidVarint

/-- Read a length and then, by repeated steps, the contents it announces. The
steps must end exactly where the contents do. -/
def readDelimited {σ : Type} (step : σ → Input → Except DecodeError (σ × Input))
    (state : σ) (input : Input) : Except DecodeError (σ × Input) :=
  match readVarint input with
  | .error fault => .error (.ofFault fault)
  | .ok (length, rest) =>
    if rest.size < length.toNat then .error (.ofFault .underflow)
    else
      match rest.repeatUntil (rest.size - length.toNat) step state with
      | .error error => .error error
      | .ok (state, last) =>
        if last.size = rest.size - length.toNat then .ok (state, last)
        else .error (.ofFault .lengthExceeded)

end RemoteWrite.Wire
