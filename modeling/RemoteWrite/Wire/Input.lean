import RemoteWrite.Text.Utf8
import RemoteWrite.Wire.Fault

/-!
Contract: the unread input of a decoder.

Owns:
- the remaining bytes together with their number;
- taking one byte, taking a given number of bytes, and skipping;
- repeating a reading step until a given number of bytes remains;
- reading a length and then the contents it announces.

Lengths are compared with all of the remaining input, not only with the value
that encloses them. A value that reaches past the end of the enclosing one is
found when that one ends.

Does not own: what a step reads.
-/

namespace RemoteWrite.Wire

/-- The bytes that remain to be read, and how many there are. -/
structure Input where
  bytes : Bytes
  size : Nat
  size_eq : bytes.length = size

namespace Input

def ofBytes (bytes : Bytes) : Input := ⟨bytes, bytes.length, rfl⟩

/-- The first remaining byte and what follows it. -/
def next? : Input → Option (UInt8 × Input)
  | ⟨[], _, _⟩ => none
  | ⟨byte :: rest, size, size_eq⟩ =>
    some (byte, ⟨rest, size - 1, by simp only [List.length_cons] at size_eq; omega⟩)

/-- Drop bytes from the front, as many as there are. -/
def drop (input : Input) (count : Nat) : Input :=
  ⟨input.bytes.drop count, input.size - count, by
    rw [List.length_drop, input.size_eq]⟩

/-- Drop a number of bytes that must be there. -/
def skip (input : Input) (count : Nat) : Except Fault Input :=
  if count ≤ input.size then .ok (input.drop count) else .error .underflow

/-- Take a number of bytes that must be there. -/
def take (input : Input) (count : Nat) : Except Fault (Bytes × Input) :=
  if count ≤ input.size then .ok (input.bytes.take count, input.drop count)
  else .error .underflow

/-- Repeat a step until at most `stop` bytes remain. A step that reads nothing
ends the repetition. -/
def repeatUntil {ε σ : Type} (stop : Nat) (step : σ → Input → Except ε (σ × Input))
    (state : σ) (input : Input) : Except ε (σ × Input) :=
  if input.size ≤ stop then .ok (state, input)
  else
    match step state input with
    | .error error => .error error
    | .ok (state, rest) =>
      if rest.size < input.size then repeatUntil stop step state rest
      else .ok (state, rest)
termination_by input.size

end Input
end RemoteWrite.Wire
