import RemoteWrite.Text.Hexadecimal
import RemoteWrite.Text.Pieces

/-!
Contract: tables of code points, written as text.

A table is a sequence of lines, and a line is a sequence of rows with a space
between them. A row names one code point in hexadecimal, or the first and the
last of a range with a hyphen between them. A colon and further numbers, with
full stops between them, may follow.

Owns:
- rows and tables, and reading them;
- the row of a code point.

Does not own: the data of any table, or what the further numbers mean.
-/

namespace RemoteWrite.Text

/-- A range of code points and the numbers that a table gives to it. -/
structure PointRow where
  first : Nat
  last : Nat
  values : List Nat
deriving DecidableEq, Repr

namespace PointRow

def contains (row : PointRow) (point : Nat) : Bool :=
  row.first ≤ point && point ≤ row.last

/-- The number of a hexadecimal numeral, and zero for other text. -/
def number (text : List Char) : Nat :=
  (Hexadecimal.value? text).getD 0

/-- The range of a row, without further numbers. -/
def ofRange (text : List Char) : PointRow :=
  match pieces '-' text with
  | first :: last :: _ => ⟨number first, number last, []⟩
  | _ => ⟨number text, number text, []⟩

def read (text : List Char) : PointRow :=
  match pieces ':' text with
  | range :: values :: _ => { ofRange range with values := (pieces '.' values).map number }
  | _ => ofRange text

end PointRow

/-- The rows of a table, in ascending order and apart. -/
abbrev PointTable := Array PointRow

namespace PointTable

def read (lines : List String) : PointTable :=
  ((lines.flatMap fun line => pieces ' ' line.toList).map PointRow.read).toArray

def row? (table : PointTable) (point : Nat) : Option PointRow :=
  table.find? (·.contains point)

def contains (table : PointTable) (point : Nat) : Bool :=
  table.any (·.contains point)

end PointTable
end RemoteWrite.Text
