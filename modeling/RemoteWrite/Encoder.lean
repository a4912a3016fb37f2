import RemoteWrite.WriteMessage

/-!
Contract: encoding of messages into a buffer that is kept.

Owns:
- the order in which the capabilities of a message are tried;
- the check of the announced size;
- the buffer, whose capacity never decreases;
- messages that cannot be encoded, as there is no buffer for them.

The sized capabilities see what earlier messages left in the buffer; the
structural one starts with an empty buffer.

Does not own: what a message writes. Memory for buffers that there can be is
taken to suffice.
-/

namespace RemoteWrite

/-- The buffer of an encoder, and how many bytes there is room for in it. -/
structure Encoder where
  buffer : Bytes
  capacity : Nat
  length_le : buffer.length ≤ capacity

/-- What encoding a message leaves behind and what it yields. -/
structure Encoded where
  encoder : Encoder
  payload : Except EncodeError Bytes

namespace Encoder

def new : Encoder := ⟨[], 0, Nat.le_refl 0⟩

/-- A buffer that a message of some size was written into is within the
capacity. -/
theorem length_overwrite_le (encoder : Encoder) {size : Nat} {front : Bytes}
    (exact : front.length = ((Buffer.grow size encoder.buffer).take size).length) :
    (Buffer.overwrite front (Buffer.grow size encoder.buffer)).length ≤
      Buffer.reserve size encoder.capacity := by
  have kept := Nat.le_trans encoder.length_le (Buffer.capacity_le_reserve size encoder.capacity)
  have fits : front.length ≤ (Buffer.grow size encoder.buffer).length :=
    exact ▸ List.length_take_le' _ _
  rw [Buffer.length_overwrite fits, Buffer.length_grow]
  exact Nat.max_le.mpr ⟨kept, Buffer.le_reserve size encoder.capacity⟩

/-- Encode into the first bytes of the buffer, as many as are announced. The
number of bytes written must be the announced one. -/
def encodeSized (encoder : Encoder) (sized : SizedMarshal) : Encoded :=
  let buffer := Buffer.grow sized.size encoder.buffer
  let marshalled := sized.marshal (buffer.take sized.size)
  { encoder :=
      { buffer := Buffer.overwrite marshalled.buffer buffer
        capacity := Buffer.reserve sized.size encoder.capacity
        length_le := encoder.length_overwrite_le (sized.length_marshal _) }
    payload :=
      match marshalled.outcome with
      | .error error => .error error
      | .ok written =>
        if written = sized.size then .ok marshalled.buffer
        else .error (.sizeMismatch sized.size written) }

/-- Encode by appending to the emptied buffer. -/
def encodeStructural (encoder : Encoder) (structural : StructuralEncoding) : Encoded where
  encoder :=
    { buffer := structural.appended
      capacity := Buffer.reserveAll structural.lengths encoder.capacity
      length_le := Buffer.le_reserveAll (List.mem_append_right _ List.mem_cons_self) _ }
  payload :=
    match structural.failure with
    | some error => .error error
    | none => .ok structural.appended

/-- What a message yields, and leaves behind, where there is a buffer for it
(`encode?`). It is encoded by the first capability that it has: sized, sized
under the other name, structural. -/
def encode (encoder : Encoder) (message : WriteMessage) : Encoded :=
  match message.sized, message.altSized, message.structural with
  | some sized, _, _ => encoder.encodeSized sized
  | none, some sized, _ => encoder.encodeSized sized
  | none, none, some structural => encoder.encodeStructural structural
  | none, none, none => ⟨encoder, .error (.unsupportedMessageType message.typeName)⟩

/-- The buffer has to grow for the message beyond what there can be. -/
def overflows (encoder : Encoder) (message : WriteMessage) : Bool :=
  max Buffer.maxCapacity encoder.capacity < Buffer.reserveAll message.lengths encoder.capacity

/-- Encode a message if there can be a buffer for it. Otherwise there is no
outcome. -/
def encode? (encoder : Encoder) (message : WriteMessage) : Option Encoded :=
  if encoder.overflows message then none else some (encoder.encode message)

end Encoder
end RemoteWrite
