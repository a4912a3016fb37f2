import RemoteWrite.Document
import RemoteWrite.Decimal.Shortest
import RemoteWrite.Text.Quoted

/-!
Contract: reading typed values from documents.

Owns:
- the readers of single values, lists, and names;
- the reader of records, which come as maps or as lists of their settings in
  order, and where every setting has a default;
- the errors of reading, with their text.

Does not own: the records of particular configurations.
-/

namespace RemoteWrite.Config

inductive ReadError where
  | invalidType (found : Document) (expected : String)
  /-- A value of the right kind that is not allowed. -/
  | invalidValue (found : Document) (expected : String)
  /-- A name that is none of the expected ones. -/
  | unknownVariant (name : String) (expected : List String)
  /-- A list with more items than a record has settings. -/
  | tooLong (length : Nat)

/-- How a value is named in an error. -/
def describe : Document → String
  | .null => "null"
  | .boolean true => "boolean \x60true\x60"
  | .boolean false => "boolean \x60false\x60"
  | .number (.natural n) => "integer \x60" ++ Text.Numeral.render n.toNat ++ "\x60"
  | .number (.negative n) =>
    "integer \x60-" ++ Text.Numeral.render n.toInt.natAbs ++ "\x60"
  | .number (.float x) => "floating point \x60" ++ Decimal.render x ++ "\x60"
  | .text value => "string " ++ Text.quoted value
  | .list _ => "sequence"
  | .map _ => "map"

def ReadError.message : ReadError → String
  | invalidType found expected =>
    "invalid type: " ++ describe found ++ ", expected " ++ expected
  | invalidValue found expected =>
    "invalid value: " ++ describe found ++ ", expected " ++ expected
  | unknownVariant name expected =>
    "unknown variant \x60" ++ name ++ "\x60, expected one of " ++
      ", ".intercalate (expected.map fun name => "\x60" ++ name ++ "\x60")
  | tooLong length =>
    "invalid length " ++ Text.Numeral.render length ++ ", expected fewer elements in array"

abbrev Reader (α : Type) := Document → Except ReadError α

namespace Reader

/-- A number without sign below a bound. -/
def unsigned (bound : Nat) (expected : String) : Reader Nat
  | .number (.natural n) =>
    if n.toNat < bound then .ok n.toNat
    else .error (.invalidValue (.number (.natural n)) expected)
  | .number (.negative n) => .error (.invalidValue (.number (.negative n)) expected)
  | found => .error (.invalidType found expected)

def uint64 : Reader UInt64 := fun found =>
  (unsigned (2 ^ 64) "u64" found).map UInt64.ofNat

def uint32 : Reader UInt32 := fun found =>
  (unsigned (2 ^ 32) "u32" found).map UInt32.ofNat

def size : Reader Nat := unsigned (2 ^ 64) "usize"

def boolean : Reader Bool
  | .boolean value => .ok value
  | found => .error (.invalidType found "a boolean")

def text : Reader String
  | .text value => .ok value
  | found => .error (.invalidType found "a string")

/-- A text that names something. -/
def named {α : Type} (expected : String) (ofName : String → Option α) : Reader α
  | .text name =>
    match ofName name with
    | some value => .ok value
    | none => .error (.invalidValue (.text name) expected)
  | found => .error (.invalidType found expected)

/-- All items of a list, up to the first that cannot be read. -/
def items {α : Type} (reader : Reader α) : List Document → Except ReadError (List α)
  | [] => .ok []
  | item :: rest =>
    match reader item with
    | .error error => .error error
    | .ok value => (items reader rest).map (value :: ·)

def list {α : Type} (reader : Reader α) : Reader (List α)
  | .list values => items reader values
  | found => .error (.invalidType found "a sequence")

def variant {α : Type} (variants : List (String × α)) (name : String) : Except ReadError α :=
  match variants.lookup name with
  | some value => .ok value
  | none => .error (.unknownVariant name (variants.map (·.1)))

/-- One of several names, alone or as the only key of a map to nothing. -/
def oneOf {α : Type} (variants : List (String × α)) : Reader α
  | .text name => variant variants name
  | .map [(name, contents)] =>
    match variant variants name, contents with
    | .error error, _ => .error error
    | .ok value, .null => .ok value
    | .ok _, found => .error (.invalidType found "unit")
  | .map entries => .error (.invalidValue (.map entries) "map with a single key")
  | found => .error (.invalidType found "string or map")

end Reader

/-- A setting of records of type `R`. -/
structure Setting (R : Type) where
  name : String
  /-- Read a value and put it into a record. -/
  read : Document → R → Except ReadError R

/-- A setting that is read on its own and then put into the record. -/
def Setting.ofReader {R α : Type} (name : String) (reader : Reader α) (set : α → R → R) :
    Setting R where
  name := name
  read document record := (reader document).map fun value => set value record

namespace Reader

def positional {R : Type} : List (Setting R) → List Document → R → Except ReadError R
  | setting :: settings, item :: rest, record =>
    match setting.read item record with
    | .error error => .error error
    | .ok record => positional settings rest record
  | _, _, record => .ok record

/-- Read settings by name; other entries are ignored. -/
def byName {R : Type} (settings : List (Setting R)) :
    List (String × Document) → R → Except ReadError R
  | [], record => .ok record
  | (key, item) :: rest, record =>
    match settings.find? fun setting => setting.name = key with
    | none => byName settings rest record
    | some setting =>
      match setting.read item record with
      | .error error => .error error
      | .ok record => byName settings rest record

/-- A record, where settings that are not given keep their defaults. A list
with more items than settings is refused after all its items were read. -/
def record {R : Type} (name : String) (settings : List (Setting R)) (default : R) : Reader R
  | .list values =>
    match positional settings values default with
    | .error error => .error error
    | .ok record =>
      if values.length ≤ settings.length then .ok record
      else .error (.tooLong values.length)
  | .map entries => byName settings entries default
  | found => .error (.invalidType found ("struct " ++ name))

end Reader
end RemoteWrite.Config
