import RemoteWrite.Text.Numeral

/-!
Contract: why bytes are not a message.

Owns:
- the kinds of field encoding and their names;
- the causes of a decoding failure and their text;
- the place of a failure, as the fields that enclose it.

Does not own: the reading itself.
-/

namespace RemoteWrite.Wire

inductive WireType where
  | varint
  | sixtyFourBit
  | lengthDelimited
  | startGroup
  | endGroup
  | thirtyTwoBit
deriving DecidableEq, Repr

namespace WireType

def code : WireType → Nat
  | varint => 0
  | sixtyFourBit => 1
  | lengthDelimited => 2
  | startGroup => 3
  | endGroup => 4
  | thirtyTwoBit => 5

def ofCode? : Nat → Option WireType
  | 0 => some varint
  | 1 => some sixtyFourBit
  | 2 => some lengthDelimited
  | 3 => some startGroup
  | 4 => some endGroup
  | 5 => some thirtyTwoBit
  | _ => none

def name : WireType → String
  | varint => "Varint"
  | sixtyFourBit => "SixtyFourBit"
  | lengthDelimited => "LengthDelimited"
  | startGroup => "StartGroup"
  | endGroup => "EndGroup"
  | thirtyTwoBit => "ThirtyTwoBit"

end WireType

inductive Fault where
  /-- A varint is cut off, longer than ten bytes, or beyond 64 bits. -/
  | invalidVarint
  | invalidKey (key : Nat)
  /-- The low bits of a key name no encoding. -/
  | unknownWireType (code : Nat)
  | zeroFieldNumber
  /-- A declared field comes in an encoding it does not have. -/
  | wireTypeMismatch (found expected : WireType)
  /-- A value is longer than the remaining input. -/
  | underflow
  | invalidText
  /-- The contents of a length-delimited value do not end where it does. -/
  | lengthExceeded
  /-- Messages or groups are nested too deeply. -/
  | recursionLimit
  /-- An end key has no group to end. -/
  | unexpectedGroupEnd
deriving DecidableEq, Repr

def Fault.message : Fault → String
  | .invalidVarint => "invalid varint"
  | .invalidKey key => "invalid key value: " ++ Text.Numeral.render key
  | .unknownWireType code => "invalid wire type value: " ++ Text.Numeral.render code
  | .zeroFieldNumber => "invalid tag value: 0"
  | .wireTypeMismatch found expected =>
    "invalid wire type: " ++ found.name ++ " (expected " ++ expected.name ++ ")"
  | .underflow => "buffer underflow"
  | .invalidText => "invalid string value: data is not UTF-8 encoded"
  | .lengthExceeded => "delimited length exceeded"
  | .recursionLimit => "recursion limit reached"
  | .unexpectedGroupEnd => "unexpected end group tag"

/-- One step of the way to a fault: a field of a message. -/
structure Place where
  message : String
  field : String
deriving DecidableEq, Repr

/-- A fault and the fields that enclose it, innermost first. -/
structure DecodeError where
  places : List Place
  fault : Fault
deriving DecidableEq, Repr

namespace DecodeError

def ofFault (fault : Fault) : DecodeError := ⟨[], fault⟩

/-- Put a failure inside one more field. -/
def within (error : DecodeError) (place : Place) : DecodeError :=
  ⟨error.places ++ [place], error.fault⟩

/-- The places innermost first, then the fault. -/
def message (error : DecodeError) : String :=
  "failed to decode Protobuf message: " ++
    String.join (error.places.map fun place => place.message ++ "." ++ place.field ++ ": ") ++
    error.fault.message

end DecodeError
end RemoteWrite.Wire
