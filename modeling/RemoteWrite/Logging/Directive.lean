import RemoteWrite.Logging.Level
import RemoteWrite.Text.Alphanumeric
import RemoteWrite.Text.Numeral
import RemoteWrite.Text.Pieces
import RemoteWrite.Text.WhiteSpace

/-!
Contract: single rules about log output.

A directive is a verbosity, or a target with one, or a target alone. Between
the target and the verbosity it may name a span and fields in brackets:
`target[span{field=value}]=level`.

Owns:
- directives, and reading them from text;
- the events that a directive covers, and how specific it is.

Does not own: the choice among several directives.
-/

namespace RemoteWrite.Logging

/-- A field that a directive asks for, with its value if that matters. -/
structure FieldPattern where
  name : String
  value : Option String
deriving DecidableEq, Repr

/-- The verbosity of the events of a target, in a span, and with fields. -/
structure Directive where
  target : Option String
  span : Option String
  fields : List FieldPattern
  verbosity : Verbosity
deriving DecidableEq, Repr

namespace Directive

def general (verbosity : Verbosity) : Directive := ⟨none, none, [], verbosity⟩

def ofTarget (target : String) (verbosity : Verbosity) : Directive :=
  ⟨some target, none, [], verbosity⟩

/-! ## Reading -/

/-- The verbosity of a number, or of a name in any case. -/
def verbosity? (text : String) : Option Verbosity :=
  match Text.Numeral.parse? (2 ^ 64) text.toList with
  | some number => Verbosity.all[number]?
  | none =>
    let lower := String.ofList (text.toList.map Char.toLower)
    Verbosity.all.find? fun verbosity => verbosity.name = lower

/-- A target or a verbosity starts with a letter, a number, or one of three
marks. -/
def isStart (c : Char) : Bool :=
  Text.isAlphanumeric c || c = '-' || c = ':' || c = '_'

/-- What is being read, and the place where it started. -/
inductive Reading where
  | start
  | name
  | span (place : Nat)
  | field (place : Nat)
  | afterFields
  | afterBrackets
  | level (place : Nat)
deriving DecidableEq, Repr

/-- The text from a place on and up to another one. -/
def slice (text : List Char) (first last : Nat) : String :=
  String.ofList ((text.drop first).take (last - first))

/-- Read a field with an optional value. -/
def fieldPattern? (text : String) : Option FieldPattern :=
  match Text.pieces '=' text.toList with
  | [] | [[]] => none
  | [name] => some ⟨String.ofList name, none⟩
  | name :: value :: _ => some ⟨String.ofList name, some (String.ofList value)⟩

/-- Read one character, given the whole text and the place of the character. -/
def step (text : List Char) (place : Nat) (c : Char) (directive : Directive) :
    Reading → Option (Directive × Reading)
  | .start =>
    if c = '[' then some (directive, .span (place + 1))
    else if isStart c then some (directive, .name)
    else none
  | .name =>
    if c = '=' then
      some ({ directive with target := some (slice text 0 place) }, .level (place + 1))
    else if c = '[' then
      some ({ directive with target := some (slice text 0 place) }, .span (place + 1))
    else some (directive, .name)
  | .span first =>
    if c = ']' then
      some ({ directive with span := some (slice text first place) }, .afterBrackets)
    else if c = '\x7b' then
      let span := slice text first place
      let span := if span.isEmpty then none else some span
      some ({ directive with span }, .field (place + 1))
    else some (directive, .span first)
  | .field first =>
    if c = '\x7d' then
      (fieldPattern? (slice text first place)).map fun field =>
        ({ directive with fields := directive.fields ++ [field] }, .afterFields)
    else some (directive, .field first)
  | .afterFields => if c = ']' then some (directive, .afterBrackets) else none
  | .afterBrackets => if c = '=' then some (directive, .level (place + 1)) else none
  | .level first => some (directive, .level first)

/-- Read the characters from a place on. -/
def stepAll (text : List Char) (place : Nat) (directive : Directive) (reading : Reading) :
    List Char → Option (Directive × Reading)
  | [] => some (directive, reading)
  | c :: rest =>
    match step text place c directive reading with
    | none => none
    | some (directive, reading) => stepAll text (place + 1) directive reading rest

/-- What has been read when the text ends. A name alone is a verbosity if it
can be. -/
def finish? (text : List Char) (directive : Directive) : Reading → Option Directive
  | .name =>
    let name := String.ofList text
    match verbosity? name with
    | some verbosity => some { directive with verbosity }
    | none => some { directive with target := some name }
  | .level first =>
    let level := String.ofList (text.drop first)
    if level.isEmpty then some directive
    else (verbosity? level).map fun verbosity => { directive with verbosity }
  | .afterBrackets => some directive
  | _ => none

/-- Read a directive. The characters are read without white space around them,
but counted from the start of the text, from which the parts are taken. So a
text with white space in front has other parts than it seems to have. -/
def parse? (text : List Char) : Option Directive :=
  match stepAll text 0 (general (.upTo .trace)) .start (Text.trim text) with
  | none => none
  | some (directive, reading) => finish? text directive reading

/-! ## Events -/

/-- The directive decides about events, not only about what happens in some
span or with some value. -/
def concernsEvents (directive : Directive) : Bool :=
  directive.span.isNone && directive.fields.all (·.value.isNone)

def messageField : String := "message"

/-- The directive covers the plain events of a target. -/
def covers (directive : Directive) (target : String) : Bool :=
  (directive.target.all fun start => start.toList.isPrefixOf target.toList) &&
    directive.fields.all (·.name = messageField)

/-- The length of the target in bytes and one, if there is one. -/
def targetWeight (directive : Directive) : Nat :=
  match directive.target with
  | none => 0
  | some target => target.utf8ByteSize + 1

/-- A directive is more specific than another one: its target is longer, or it
asks for more fields. -/
def exceeds (directive other : Directive) : Bool :=
  other.targetWeight < directive.targetWeight ||
    (other.targetWeight = directive.targetWeight &&
      other.fields.length < directive.fields.length)

end Directive
end RemoteWrite.Logging
