import RemoteWrite.Wire.Scalar

/-!
Contract: the forms that a field of a message takes.

A field form says what a field holds when nothing was read, how its value is
written, how long that is, and how one more record for it is merged into the
value so far.

Owns:
- plain fields, which are omitted while they hold their default;
- repeated scalars in packed form, which are read in both forms;
- repeated texts;
- alternatives, of which the last one read wins.

Does not own: fields that hold messages, which are in `Wire.Schema`.
-/

namespace RemoteWrite.Wire

/-- The form of a field with values in `α`. The numbers are those of all
records that belong to the field. -/
structure FieldForm (α : Type) where
  numbers : List Nat
  default : α
  write : α → Bytes
  size : α → Nat
  merge : (budget : Nat) → Key → α → Input → Except DecodeError (α × Input)

/-- Read a value that must come in one encoding. -/
def Scalar.readAs {α : Type} (scalar : Scalar α) (found : WireType) (input : Input) :
    Except DecodeError (α × Input) :=
  if found = scalar.wireType then
    match scalar.read input with
    | .error fault => .error (.ofFault fault)
    | .ok result => .ok result
  else .error (.ofFault (.wireTypeMismatch found scalar.wireType))

/-- Read a value and put it in front of those before it. -/
def Scalar.collect {α : Type} (scalar : Scalar α) (reversed : List α) (input : Input) :
    Except DecodeError (List α × Input) :=
  match scalar.read input with
  | .error fault => .error (.ofFault fault)
  | .ok (value, rest) => .ok (value :: reversed, rest)

def Scalar.writeRecord {α : Type} (scalar : Scalar α) (number : Nat) (value : α) : Bytes :=
  (Key.mk number scalar.wireType).write ++ scalar.write value

def Scalar.recordSize {α : Type} (scalar : Scalar α) (number : Nat) (value : α) : Nat :=
  (Key.mk number scalar.wireType).size + scalar.size value

namespace FieldForm

/-- One value, omitted if it is as good as the default. The last record
wins. -/
def plain {α : Type} (scalar : Scalar α) (number : Nat) (default : α)
    (omitted : α → Bool) : FieldForm α where
  numbers := [number]
  default := default
  write value := if omitted value then [] else scalar.writeRecord number value
  size value := if omitted value then 0 else scalar.recordSize number value
  merge _ key _ input := scalar.readAs key.wireType input

/-- Any number of values in one record. Reading takes packed records and
single values alike and appends to what is there. -/
def packed {α : Type} (scalar : Scalar α) (number : Nat) : FieldForm (List α) where
  numbers := [number]
  default := []
  write values :=
    if values.isEmpty then []
    else
      let payload := values.flatMap scalar.write
      (Key.mk number .lengthDelimited).write ++ varint payload.length ++ payload
  size values :=
    if values.isEmpty then 0
    else
      let length := (values.map scalar.size).sum
      (Key.mk number .lengthDelimited).size + varintSize length + length
  merge _ key values input :=
    if key.wireType = .lengthDelimited then
      match readDelimited scalar.collect [] input with
      | .error error => .error error
      | .ok (reversed, rest) => .ok (values ++ reversed.reverse, rest)
    else
      match scalar.readAs key.wireType input with
      | .error error => .error error
      | .ok (value, rest) => .ok (values ++ [value], rest)

/-- Any number of values, each in a record of its own. -/
def repeated {α : Type} (scalar : Scalar α) (number : Nat) : FieldForm (List α) where
  numbers := [number]
  default := []
  write values := values.flatMap (scalar.writeRecord number)
  size values := (values.map (scalar.recordSize number)).sum
  merge _ key values input :=
    match scalar.readAs key.wireType input with
    | .error error => .error error
    | .ok (value, rest) => .ok (values ++ [value], rest)

end FieldForm

/-- One of two values under two field numbers. -/
inductive Either (α β : Type) where
  | first (value : α)
  | second (value : β)
deriving DecidableEq, Repr

/-- At most one of two values. It is written also when it is zero. The last
record wins. -/
def FieldForm.oneOf {α β γ : Type} (first : Scalar α) (firstNumber : Nat)
    (second : Scalar β) (secondNumber : Nat)
    (ofEither : Either α β → γ) (toEither : γ → Either α β) : FieldForm (Option γ) where
  numbers := [firstNumber, secondNumber]
  default := none
  write
    | none => []
    | some value =>
      match toEither value with
      | .first value => first.writeRecord firstNumber value
      | .second value => second.writeRecord secondNumber value
  size
    | none => 0
    | some value =>
      match toEither value with
      | .first value => first.recordSize firstNumber value
      | .second value => second.recordSize secondNumber value
  merge _ key _ input :=
    if key.number = firstNumber then
      match first.readAs key.wireType input with
      | .error error => .error error
      | .ok (value, rest) => .ok (some (ofEither (.first value)), rest)
    else
      match second.readAs key.wireType input with
      | .error error => .error error
      | .ok (value, rest) => .ok (some (ofEither (.second value)), rest)

end RemoteWrite.Wire
