import RemoteWrite.Text.Utf8

/-!
Contract: the header fields of a request or a response.

Owns:
- fields in the order they were added, any number of them under one name;
- reading, replacing, appending, and removing by name;
- merging of two header lists, where the names of the second win.

Names are kept in lower case. `canonicalName` turns any spelling into the one
that is kept.

Does not own: the wire form of headers, or the meaning of any of them.
-/

namespace RemoteWrite.Http

/-- The lower-case spelling of a header name, in which names are compared. -/
def canonicalName (name : String) : String :=
  String.ofList (name.toList.map Char.toLower)

structure Headers where
  fields : List (String × Bytes)
deriving DecidableEq, Repr

namespace Headers

def empty : Headers := ⟨[]⟩

def values (headers : Headers) (name : String) : List Bytes :=
  (headers.fields.filter fun field => field.1 = name).map (·.2)

def first? (headers : Headers) (name : String) : Option Bytes :=
  (headers.values name).head?

/-- The first value of a name, if it is text of visible ASCII. -/
def text? (headers : Headers) (name : String) : Option String :=
  (headers.first? name).bind Text.visible?

def contains (headers : Headers) (name : String) : Bool :=
  headers.fields.any fun field => field.1 = name

def remove (headers : Headers) (name : String) : Headers :=
  ⟨headers.fields.filter fun field => field.1 ≠ name⟩

/-- Add a value after those that the name already has. -/
def append (headers : Headers) (name : String) (value : Bytes) : Headers :=
  ⟨headers.fields ++ [(name, value)]⟩

def insert (headers : Headers) (name : String) (value : Bytes) : Headers :=
  (headers.remove name).append name value

/-- Take over all fields of `others`: a name that occurs there loses the
values it has here. -/
def extend (headers others : Headers) : Headers :=
  ⟨headers.fields.filter (fun field => !others.contains field.1) ++ others.fields⟩

/-- Header fields from names of any spelling, appended in order. -/
def ofList (fields : List (String × Bytes)) : Headers :=
  ⟨fields.map fun field => (canonicalName field.1, field.2)⟩

end Headers

/-! ## Names of standard fields, as they are kept -/

def contentTypeName : String := "content-type"

def contentEncodingName : String := "content-encoding"

def contentLengthName : String := "content-length"

def retryAfterName : String := "retry-after"

def userAgentName : String := "user-agent"

def allowName : String := "allow"

end RemoteWrite.Http
