import Std.Data.HashMap
import RemoteWrite.Text.Numeral

/-!
Contract: interning of texts for the 2.0 protocol.

Every distinct text gets a reference, which is its index among the symbols.
The empty text always has reference zero. A table is built for one request,
then reset and used for the next.

Owns:
- the table with its reverse map, and interning of single texts and of flat
  label lists;
- resolving references against a list of symbols, with the errors of
  references that are no labels.

Does not own: the message that carries the symbols.
-/

namespace RemoteWrite

/-- Symbols in order of their references, and the reference of each. -/
structure SymbolTable where
  symbols : Array String
  references : Std.HashMap String UInt32

namespace SymbolTable

/-- The table of the empty text alone. -/
def new : SymbolTable where
  symbols := #[""]
  references := (∅ : Std.HashMap String UInt32).insert "" 0

/-- The reference of a text, which is added if it is new. -/
def symbolize (table : SymbolTable) (symbol : String) : UInt32 × SymbolTable :=
  match table.references[symbol]? with
  | some reference => (reference, table)
  | none =>
    let reference := UInt32.ofNat table.symbols.size
    (reference,
      { symbols := table.symbols.push symbol
        references := table.references.insert symbol reference })

/-- The references of a flat list of names and values in turn. A last name
without a value is paired with the empty text. -/
def symbolizeLabels (table : SymbolTable) : List String → List UInt32 × SymbolTable
  | [] => ([], table)
  | [name] =>
    let (nameRef, table) := table.symbolize name
    ([nameRef, 0], table)
  | name :: value :: rest =>
    let (nameRef, table) := table.symbolize name
    let (valueRef, table) := table.symbolize value
    let (references, table) := table.symbolizeLabels rest
    (nameRef :: valueRef :: references, table)

/-- Write the references of a flat list of names and values to the end of a
buffer. -/
def appendReferences (table : SymbolTable) (buffer : Array UInt32) :
    List String → Array UInt32 × SymbolTable
  | [] => (buffer, table)
  | [name] =>
    let (nameRef, table) := table.symbolize name
    ((buffer.push nameRef).push 0, table)
  | name :: value :: rest =>
    let (nameRef, table) := table.symbolize name
    let (valueRef, table) := table.symbolize value
    table.appendReferences ((buffer.push nameRef).push valueRef) rest

/-- The references of a flat list of names and values in a buffer, which is
emptied first. -/
def symbolizeLabelsInto (table : SymbolTable) (labels : List String) (buffer : Array UInt32) :
    Array UInt32 × SymbolTable :=
  table.appendReferences (buffer.take 0) labels

def reset (_ : SymbolTable) : SymbolTable := new

end SymbolTable

inductive DesymbolizeError where
  | outOfRange (reference : UInt32) (symbols : Nat)
  /-- Names and values come in pairs. -/
  | oddCount (references : Nat)
deriving DecidableEq, Repr

def DesymbolizeError.message : DesymbolizeError → String
  | .outOfRange reference symbols =>
    "symbol reference " ++ Text.Numeral.render reference.toNat ++
      " out of range, table has " ++ Text.Numeral.render symbols ++ " symbols"
  | .oddCount references =>
    "odd number of label references: " ++ Text.Numeral.render references

/-- Write the symbols of the references over the entries of a buffer from
`index` on, and past its end where it is too short. -/
def resolveInto (symbols : Array String) :
    (buffer : Array String) → (index : Nat) → List UInt32 →
      Except DesymbolizeError (Array String)
  | buffer, _, [] => .ok buffer
  | buffer, index, reference :: rest =>
    match symbols[reference.toNat]? with
    | none => .error (.outOfRange reference symbols.size)
    | some symbol =>
      let buffer :=
        if bound : index < buffer.size then buffer.set index symbol bound
        else buffer.push symbol
      resolveInto symbols buffer (index + 1) rest

/-- The flat list of names and values that references stand for. The texts of
the given buffer are overwritten. -/
def desymbolizeLabels (references : List UInt32) (symbols : Array String)
    (buffer : Array String := #[]) : Except DesymbolizeError (Array String) :=
  if references.length % 2 = 0 then
    resolveInto symbols (buffer.take references.length) 0 references
  else .error (.oddCount references.length)

end RemoteWrite
