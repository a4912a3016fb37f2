import RemoteWrite.Buffer
import RemoteWrite.Message.Decoded
import RemoteWrite.Stats

/-!
Contract: messages that can be written, and what they can do.

A message offers any of three ways of encoding it: into a buffer of the size
that it announces, the same under another name, or appended to a buffer that
grows. It may have a table of symbols, which makes it a 2.0 message, may choose
its protocol itself, and may know what it contains.

Owns:
- the capabilities of messages, and the room that they need;
- the errors of encoding;
- the requests of both protocols as messages.

Does not own: the choice of a capability, which is the encoder's.
-/

namespace RemoteWrite

inductive EncodeError where
  | unsupportedMessageType (name : String)
  /-- The message wrote another number of bytes than it announced. -/
  | sizeMismatch (expected written : Nat)
  /-- The message does not fit in the buffer it was given. -/
  | protobuf (required remaining : Nat)
deriving DecidableEq, Repr

namespace EncodeError

def message : EncodeError → String
  | unsupportedMessageType name => "unsupported message type " ++ name
  | sizeMismatch expected written =>
    "marshal wrote " ++ Text.Numeral.render written ++ " bytes, expected " ++
      Text.Numeral.render expected
  | protobuf _ _ => "failed to encode protobuf message"

/-- The text of the cause, where there is one. -/
def source? : EncodeError → Option String
  | protobuf required remaining =>
    some ("failed to encode Protobuf message; insufficient buffer capacity (required: " ++
      Text.Numeral.render required ++ ", remaining: " ++ Text.Numeral.render remaining ++ ")")
  | _ => none

end EncodeError

/-- A buffer after something was written into it, and the number of bytes
that were written. -/
structure Marshalled where
  buffer : Bytes
  outcome : Except EncodeError Nat

/-- Encoding into a buffer of the announced size. Bytes that are not written
keep what the buffer held, and its size never changes. -/
structure SizedMarshal where
  size : Nat
  marshal : Bytes → Marshalled
  length_marshal : ∀ buffer, (marshal buffer).buffer.length = buffer.length

/-- Encoding at the end of a buffer: what is appended, and whether that
failed. -/
structure StructuralEncoding where
  appended : Bytes
  failure : Option EncodeError := none
  /-- The lengths that room was made for on the way. Bytes that are appended in
  parts need room several times. -/
  reserved : List Nat := []

def StructuralEncoding.lengths (structural : StructuralEncoding) : List Nat :=
  structural.reserved ++ [structural.appended.length]

structure WriteMessage where
  typeName : String
  sized : Option SizedMarshal := none
  altSized : Option SizedMarshal := none
  structural : Option StructuralEncoding := none
  symbols : Option (List String) := none
  baseline : Option WriteStats := none
  /-- The protocol of a message that chooses one itself. -/
  ownProtocol : Option Protocol := none

/-- A message that does not choose its protocol is written with the 2.0
protocol if it has symbols. -/
def WriteMessage.protocol (message : WriteMessage) : Protocol :=
  match message.ownProtocol, message.symbols with
  | some protocol, _ => protocol
  | none, some _ => .v2
  | none, none => .v1

/-- The lengths that the first capability of a message needs room for, one after
the other. -/
def WriteMessage.lengths (message : WriteMessage) : List Nat :=
  match message.sized, message.altSized, message.structural with
  | some sized, _, _ => [sized.size]
  | none, some sized, _ => [sized.size]
  | none, none, some structural => structural.lengths
  | none, none, none => []

namespace SizedMarshal

/-- The encoding of known bytes, which must fit in the buffer as a whole. -/
def ofEncoding (size : Nat) (bytes : Bytes) : SizedMarshal where
  size := size
  marshal buffer :=
    if size ≤ buffer.length then ⟨Buffer.fill bytes buffer, .ok bytes.length⟩
    else ⟨buffer, .error (.protobuf size buffer.length)⟩
  length_marshal buffer := by
    split
    · exact Buffer.length_fill bytes buffer
    · rfl

/-- The same under another announced size. -/
def announcing (size : Nat) (marshal : SizedMarshal) : SizedMarshal :=
  { marshal with size }

/-- As many of some bytes as fit, with any number reported as written; by
default the true one. -/
def ofBytes (size : Nat) (bytes : Bytes) (reported : Option Nat) : SizedMarshal where
  size := size
  marshal buffer :=
    ⟨Buffer.fill bytes buffer, .ok (reported.getD (min bytes.length buffer.length))⟩
  length_marshal buffer := Buffer.length_fill bytes buffer

end SizedMarshal

namespace DecodedRequest

def encodedSize : DecodedRequest → Nat
  | v1 request => V1.WriteRequest.schema.size request
  | v2 request => V2.Request.schema.size request

def symbols? : DecodedRequest → Option (List String)
  | v1 _ => none
  | v2 request => some request.symbols

/-- A request as a message. It announces its exact size and knows what it
contains. What it appends counts as one part. -/
def toMessage (request : DecodedRequest) : WriteMessage where
  typeName := request.protocol.name
  sized := some (.ofEncoding request.encodedSize request.encode)
  structural := some { appended := request.encode }
  symbols := request.symbols?
  baseline := some (WriteStats.ofRequest request)

end DecodedRequest
end RemoteWrite
