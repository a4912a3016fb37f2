import RemoteWrite.Wire.Scalar

/-!
Contract: documents of nested values, which configurations are read from and
written to.

Owns:
- the values that a document is made of;
- the three kinds of numbers: those of 64 bits without sign, negative ones of
  64 bits, and all others as floating-point numbers;
- the order of entries: by key, each key once, the last value given for it.

Does not own: the text of documents, which is in `Document.Json`.
-/

namespace RemoteWrite

inductive Number where
  | natural (n : UInt64)
  | negative (n : Int64)
  | float (x : Binary64)
deriving DecidableEq, Repr

inductive Document where
  | null
  | boolean (value : Bool)
  | number (value : Number)
  | text (value : String)
  | list (items : List Document)
  | map (entries : List (String × Document))

namespace Document

/-- Put an entry in its place by key. A value that the key already has is
replaced. -/
def insertEntry (key : String) (value : Document) :
    List (String × Document) → List (String × Document)
  | [] => [(key, value)]
  | entry :: rest =>
    if key < entry.1 then (key, value) :: entry :: rest
    else if key = entry.1 then (key, value) :: rest
    else entry :: insertEntry key value rest

/-- The map of some entries, where later ones win. -/
def ofEntries (entries : List (String × Document)) : Document :=
  map (entries.foldl (fun sorted entry => insertEntry entry.1 entry.2 sorted) [])

def ofUInt64 (n : UInt64) : Document := number (.natural n)

end Document
end RemoteWrite
