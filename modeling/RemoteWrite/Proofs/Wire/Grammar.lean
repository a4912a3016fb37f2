import RemoteWrite.Proofs.Wire.Varint
import RemoteWrite.Wire.Field

/-!
Contract: which byte strings denote a message, said without a reader.

A message is a list of records. Records of different fields may stand in any
order among each other, a default may be written or left out, the values of a
packable field may be spread over records of both forms, varints may be padded,
and records of fields that nobody declared may stand anywhere.

Owns:
- the encodings of scalars, with padded varints;
- records, and the values of records that are not declared, groups included;
- what the records of a field denote, for every kind of field;
- what the records of a message denote.

Does not own: the messages of the protocols, or what a decoder makes of the
bytes.
-/

namespace RemoteWrite.Wire

/-! ## Scalars -/

/-- The encodings of the values of a type. -/
structure ScalarGrammar (α : Type) where
  wireType : WireType
  Denotes : α → Bytes → Prop

namespace ScalarGrammar

def varint {α : Type} (toNumber : α → Nat) : ScalarGrammar α where
  wireType := .varint
  Denotes value := IsVarint (toNumber value)

def uint64 : ScalarGrammar UInt64 :=
  varint UInt64.toNat

def uint32 : ScalarGrammar UInt32 :=
  varint UInt32.toNat

/-- The two's complement of 64 bits. -/
def int64 : ScalarGrammar Int64 :=
  varint fun value => value.toUInt64.toNat

/-- The two's complement of 64 bits, also for numbers of 32 bits. -/
def int32 : ScalarGrammar Int32 :=
  varint fun value => value.toInt64.toUInt64.toNat

def sint64 : ScalarGrammar Int64 :=
  varint fun value => zigzag value.toInt

def sint32 : ScalarGrammar Int32 :=
  varint fun value => zigzag value.toInt

def double : ScalarGrammar Binary64 where
  wireType := .sixtyFourBit
  Denotes value bytes := bytes = littleEndian value.bits

def text : ScalarGrammar String where
  wireType := .lengthDelimited
  Denotes value bytes := ∃ lengthBytes, bytes = lengthBytes ++ Text.utf8 value ∧
    IsVarint (Text.utf8 value).length lengthBytes

end ScalarGrammar

/-! ## Records -/

/-- A record: its key, written as a varint, and what follows the key. -/
structure Record where
  key : Key
  keyBytes : Bytes
  payload : Bytes
  isNumber : Key.IsNumber key.number := by decide
  isKey : IsVarint key.value keyBytes := by decide

namespace Record

def number (record : Record) : Nat :=
  record.key.number

def wireType (record : Record) : WireType :=
  record.key.wireType

def bytes (record : Record) : Bytes :=
  record.keyBytes ++ record.payload

end Record

mutual

/-- A value of the wire type in a key, in which groups are nested at most as deep as given. -/
inductive IsWireValue : (groups : Nat) → Key → Bytes → Prop where
  | varint {groups number n : Nat} {bytes : Bytes} (isVarint : IsVarint n bytes) :
      IsWireValue groups ⟨number, .varint⟩ bytes
  | sixtyFourBit {groups number : Nat} {bytes : Bytes} (length : bytes.length = 8) :
      IsWireValue groups ⟨number, .sixtyFourBit⟩ bytes
  | lengthDelimited {groups number : Nat} {lengthBytes bytes : Bytes}
      (isLength : IsVarint bytes.length lengthBytes) :
      IsWireValue groups ⟨number, .lengthDelimited⟩ (lengthBytes ++ bytes)
  | startGroup {groups number : Nat} {bytes : Bytes} (isGroup : IsGroup groups number bytes) :
      IsWireValue (groups + 1) ⟨number, .startGroup⟩ bytes
  | thirtyTwoBit {groups number : Nat} {bytes : Bytes} (length : bytes.length = 4) :
      IsWireValue groups ⟨number, .thirtyTwoBit⟩ bytes

/-- The records of a group, and the end key with its number behind them. -/
inductive IsGroup : (groups : Nat) → (number : Nat) → Bytes → Prop where
  | close {groups number : Nat} {keyBytes : Bytes}
      (isKey : IsVarint (Key.mk number .endGroup).value keyBytes) : IsGroup groups number keyBytes
  | next {groups number : Nat} {bytes : Bytes} (record : Record)
      (isValue : IsWireValue groups record.key record.payload)
      (others : IsGroup groups number bytes) : IsGroup groups number (record.bytes ++ bytes)

end

/-! ## Fields -/

/-- What the records of a field denote. The numbers are those of all its records. -/
structure FieldGrammar (α : Type) where
  numbers : List Nat
  Denotes : α → List Record → Prop

namespace ScalarGrammar

variable {α : Type} (scalar : ScalarGrammar α)

/-- A record of its own for a value. -/
def IsRecord (value : α) (record : Record) : Prop :=
  record.wireType = scalar.wireType ∧ scalar.Denotes value record.payload

/-- One of the records that the values of a field are spread over: a single value, or any number of
them behind their length. -/
inductive IsPart : List α → Record → Prop where
  | single {value : α} {record : Record} (isRecord : scalar.IsRecord value record) :
      IsPart [value] record
  | packed {values : List α} {record : Record} {lengthBytes : Bytes} {encodings : List Bytes}
      (delimited : record.wireType = .lengthDelimited)
      (payload : record.payload = lengthBytes ++ encodings.flatten)
      (isLength : IsVarint encodings.flatten.length lengthBytes)
      (denotes : List.Forall₂ scalar.Denotes values encodings) : IsPart values record

end ScalarGrammar

/-- A nested message behind its length. -/
def IsNested {M : Type} (denotes : M → Bytes → Prop) (message : M) (record : Record) : Prop :=
  record.wireType = .lengthDelimited ∧ ∃ lengthBytes bytes, record.payload = lengthBytes ++ bytes ∧
    IsVarint bytes.length lengthBytes ∧ denotes message bytes

namespace FieldGrammar

variable {α β γ M : Type}

/-- One record, or none for the default. -/
def plain (scalar : ScalarGrammar α) (number : Nat) (default : α) : FieldGrammar α where
  numbers := [number]
  Denotes value records := (value = default ∧ records = []) ∨
    ∃ record, records = [record] ∧ scalar.IsRecord value record

/-- Any number of values, spread over single and packed records, some of which may be empty. -/
def packable (scalar : ScalarGrammar α) (number : Nat) : FieldGrammar (List α) where
  numbers := [number]
  Denotes values records := ∃ parts, values = parts.flatten ∧
    List.Forall₂ scalar.IsPart parts records

/-- Any number of values, each in a record of its own. -/
def repeated (scalar : ScalarGrammar α) (number : Nat) : FieldGrammar (List α) where
  numbers := [number]
  Denotes := List.Forall₂ scalar.IsRecord

/-- At most one of two values, under the number of the one that it is. -/
def oneOf (first : ScalarGrammar α) (firstNumber : Nat) (second : ScalarGrammar β)
    (secondNumber : Nat) (toEither : γ → Either α β) : FieldGrammar (Option γ) where
  numbers := [firstNumber, secondNumber]
  Denotes
    | none, records => records = []
    | some value, records => ∃ record, records = [record] ∧
      match toEither value with
      | .first value => record.number = firstNumber ∧ first.IsRecord value record
      | .second value => record.number = secondNumber ∧ second.IsRecord value record

/-- Any number of nested messages, each in a record of its own. -/
def messages (denotes : M → Bytes → Prop) (number : Nat) : FieldGrammar (List M) where
  numbers := [number]
  Denotes := List.Forall₂ (IsNested denotes)

/-- At most one nested message. -/
def optional (denotes : M → Bytes → Prop) (number : Nat) : FieldGrammar (Option M) where
  numbers := [number]
  Denotes
    | none, records => records = []
    | some message, records => ∃ record, records = [record] ∧ IsNested denotes message record

end FieldGrammar

/-! ## Messages -/

/-- The grammar of one field of a message, and what the field holds. -/
structure MessagePart (M : Type) where
  {Value : Type}
  get : M → Value
  grammar : FieldGrammar Value

/-- How deep the groups of a record that is not declared may be nested. -/
def groupDepth : Nat := 96

/-- The records denote a message. Those of a field denote what the field holds, and every other one
holds a value of its wire type. -/
structure IsMessage {M : Type} (parts : List (MessagePart M)) (message : M)
    (records : List Record) : Prop where
  declared : ∀ part ∈ parts, part.grammar.Denotes (part.get message)
    (records.filter fun record => part.grammar.numbers.contains record.number)
  undeclared : ∀ record ∈ records, (∃ part ∈ parts, record.number ∈ part.grammar.numbers) ∨
    IsWireValue groupDepth record.key record.payload

/-- The bytes are those of records that denote a message. -/
def Denotes {M : Type} (parts : List (MessagePart M)) (message : M) (bytes : Bytes) : Prop :=
  ∃ records, bytes = records.flatMap Record.bytes ∧ IsMessage parts message records

/-- Records of fields alone. -/
theorem Denotes.of_declared {M : Type} {parts : List (MessagePart M)} {message : M}
    (records : List Record)
    (own : ∀ record ∈ records, ∃ part ∈ parts, record.number ∈ part.grammar.numbers)
    (declared : ∀ part ∈ parts, part.grammar.Denotes (part.get message)
      (records.filter fun record => part.grammar.numbers.contains record.number)) :
    Denotes parts message (records.flatMap Record.bytes) :=
  ⟨records, rfl, declared, fun record member => .inl (own record member)⟩

end RemoteWrite.Wire
