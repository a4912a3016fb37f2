import RemoteWrite.Wire.Field

/-!
Contract: messages as lists of declared fields.

Owns:
- a declared field: its name, its form, and its place in the message;
- a message schema, and the laws of its fields;
- writing a message field by field, and its size, computed on its own;
- merging the fields of a byte string into a message, in any order, with
  fields that are not declared skipped;
- the field forms that hold messages.

Does not own: the schemas of particular messages.
-/

namespace RemoteWrite.Wire

/-- A declared field of messages of type `M`. It holds what was set last. -/
structure Field (M : Type) where
  {Value : Type}
  name : String
  form : FieldForm Value
  get : M → Value
  set : Value → M → M
  get_set : ∀ value message, get (set value message) = value := by intros; rfl
  set_set : ∀ value earlier message,
    set value (set earlier message) = set value message := by intros; rfl
  set_get : ∀ message, set (get message) message = message := by intros; rfl

/-- Setting one of two fields leaves the other one as it is. -/
def Field.Apart {M : Type} (first second : Field M) : Prop :=
  (∀ value message, second.get (first.set value message) = second.get message) ∧
    ∀ value message, first.get (second.set value message) = first.get message

/-- The fields of a message, in the order in which they are written. They are
apart, have numbers of their own, and make up the message. -/
structure Schema (M : Type) where
  name : String
  empty : M
  fields : List (Field M)
  numbers_nodup : (fields.flatMap fun field => field.form.numbers).Nodup := by decide
  apart : fields.Pairwise Field.Apart := by simp [Field.Apart]
  get_empty : ∀ field ∈ fields, field.get empty = field.form.default := by
    simp only [List.forall_mem_cons, List.not_mem_nil, false_implies, implies_true, and_true]
    and_intros <;> rfl
  rebuild : ∀ message,
    fields.foldl (fun built field => field.set (field.get message) built) empty = message := by
      intro message
      rfl

namespace Schema

variable {M : Type}

def write (schema : Schema M) (message : M) : Bytes :=
  schema.fields.flatMap fun field => field.form.write (field.get message)

def size (schema : Schema M) (message : M) : Nat :=
  (schema.fields.map fun field => field.form.size (field.get message)).sum

/-- The declared field that a record with this number belongs to. -/
def field? (schema : Schema M) (number : Nat) : Option (Field M) :=
  schema.fields.find? fun field => field.form.numbers.contains number

/-- Merge the record behind a key. A failure in a declared field is placed in
that field. -/
def mergeRecord (schema : Schema M) (budget : Nat) (key : Key) (message : M) (input : Input) :
    Except DecodeError (M × Input) :=
  match schema.field? key.number with
  | some field =>
    match field.form.merge budget key (field.get message) input with
    | .error error => .error (error.within ⟨schema.name, field.name⟩)
    | .ok (value, rest) => .ok (field.set value message, rest)
  | none =>
    match skipField budget key input with
    | .error fault => .error (.ofFault fault)
    | .ok rest => .ok (message, rest)

def mergeNext (schema : Schema M) (budget : Nat) (message : M) (input : Input) :
    Except DecodeError (M × Input) :=
  match Key.read input with
  | .error fault => .error (.ofFault fault)
  | .ok (key, rest) => schema.mergeRecord budget key message rest

/-- The number of nested messages or groups that a decoder enters at most. -/
def recursionLimit : Nat := 100

def decode (schema : Schema M) (bytes : Bytes) : Except DecodeError M :=
  match (Input.ofBytes bytes).repeatUntil 0 (schema.mergeNext recursionLimit) schema.empty with
  | .error error => .error error
  | .ok (message, _) => .ok message

/-- Merge a nested message that is preceded by its length. -/
def mergeNested (schema : Schema M) (budget : Nat) (found : WireType) (message : M)
    (input : Input) : Except DecodeError (M × Input) :=
  if found = .lengthDelimited then
    match budget with
    | 0 => .error (.ofFault .recursionLimit)
    | budget + 1 => readDelimited (schema.mergeNext budget) message input
  else .error (.ofFault (.wireTypeMismatch found .lengthDelimited))

def writeNested (schema : Schema M) (number : Nat) (message : M) : Bytes :=
  (Key.mk number .lengthDelimited).write ++ varint (schema.size message) ++
    schema.write message

def nestedSize (schema : Schema M) (number : Nat) (message : M) : Nat :=
  (Key.mk number .lengthDelimited).size + varintSize (schema.size message) +
    schema.size message

/-- Any number of nested messages, each in a record of its own. -/
def repeated (schema : Schema M) (number : Nat) : FieldForm (List M) where
  numbers := [number]
  default := []
  write messages := messages.flatMap (schema.writeNested number)
  size messages := (messages.map (schema.nestedSize number)).sum
  merge budget key messages input :=
    match schema.mergeNested budget key.wireType schema.empty input with
    | .error error => .error error
    | .ok (message, rest) => .ok (messages ++ [message], rest)

/-- At most one nested message. Further records are merged into it. -/
def optional (schema : Schema M) (number : Nat) : FieldForm (Option M) where
  numbers := [number]
  default := none
  write
    | none => []
    | some message => schema.writeNested number message
  size
    | none => 0
    | some message => schema.nestedSize number message
  merge budget key message input :=
    match schema.mergeNested budget key.wireType (message.getD schema.empty) input with
    | .error error => .error error
    | .ok (message, rest) => .ok (some message, rest)

end Schema
end RemoteWrite.Wire
