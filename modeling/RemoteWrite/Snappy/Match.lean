import RemoteWrite.Snappy.Element

/-!
Contract: finding repeated bytes within one piece of the data.

A table remembers, for each hash of four bytes, the last position where it was
seen. At a position the table proposes one earlier candidate, which is a match
if the bytes there agree for at least four bytes. Where nothing matches, the
search moves on in steps that grow, so that data without repetition is passed
over quickly.

Owns:
- the table and its size;
- the length of a match;
- the matches of a piece, from left to right and apart.

Does not own: the elements that matches are written as. Nothing here has to be
trusted by a reader of the compressed data: the writer checks every match.
-/

namespace RemoteWrite.Snappy

/-- Bytes that are found again: `length` bytes from `start` on equal those
from `offset` further back. -/
structure Match where
  start : Nat
  offset : Nat
  length : Nat
deriving DecidableEq, Repr

/-- The byte at a position, or zero behind the end. -/
def byteAt (data : Array UInt8) (position : Nat) : UInt8 :=
  data.getD position 0

/-- The number of equal bytes from two positions on, where the second one is
the later. -/
def matchLength (data : Array UInt8) (candidate position : Nat) : Nat :=
  if bound : position < data.size then
    if byteAt data candidate = data[position] then
      matchLength data (candidate + 1) (position + 1) + 1
    else 0
  else 0
termination_by data.size - position

/-- The last position of each hash. -/
structure HashTable where
  bits : Nat
  slots : Array Nat

/-- The factor that spreads four bytes over the bits of a hash. -/
def hashFactor : UInt32 := 0x1E35A7BD

namespace HashTable

/-- The number of bits of the hashes for a piece of the given size. -/
def bitsFor (size : Nat) : Nat :=
  ([8, 9, 10, 11, 12, 13].find? fun bits => size ≤ 2 ^ bits).getD 14

/-- A table for a piece of the given size; every hash points to its start. -/
def new (size : Nat) : HashTable where
  bits := bitsFor size
  slots := Array.replicate (2 ^ bitsFor size) 0

/-- The hash of the four bytes at a position. -/
def hash (table : HashTable) (data : Array UInt8) (position : Nat) : Nat :=
  let word :=
    (byteAt data position).toUInt32 ||| (byteAt data (position + 1)).toUInt32 <<< 8 |||
      (byteAt data (position + 2)).toUInt32 <<< 16 |||
      (byteAt data (position + 3)).toUInt32 <<< 24
  (hashFactor * word).toNat / 2 ^ (32 - table.bits)

def insert (table : HashTable) (data : Array UInt8) (position : Nat) : HashTable :=
  { table with slots := table.slots.setIfInBounds (table.hash data position) position }

/-- The earlier position that the table proposes for a position. -/
def candidate (table : HashTable) (data : Array UInt8) (position : Nat) : Nat :=
  table.slots.getD (table.hash data position) 0

/-- The match at a position, if the proposed candidate is one. -/
def matchAt? (table : HashTable) (data : Array UInt8) (position : Nat) : Option Match :=
  let candidate := table.candidate data position
  if candidate < position then
    let length := matchLength data candidate position
    if 4 ≤ length then some ⟨position, position - candidate, length⟩ else none
  else none

end HashTable

/-- No match starts at or behind this position of a piece, which leaves room
for reading and hashing several bytes at once. -/
def matchLimit (data : Array UInt8) : Nat :=
  data.size - 15

/-- The first match from a position on and below a limit. The step is one for
the first 32 positions and grows by one with every 32 positions passed. -/
def searchFrom (data : Array UInt8) (limit : Nat) (table : HashTable)
    (position passed : Nat) : Option (Match × HashTable) :=
  if position + (passed / 32 + 1) ≤ limit then
    match table.matchAt? data position with
    | some found => some (found, table.insert data position)
    | none =>
      searchFrom data limit (table.insert data position) (position + (passed / 32 + 1))
        (passed + (passed / 32 + 1))
  else none
termination_by limit - position

/-- The first match behind a match that ends at a position: right there, or by
a new search. -/
def nextMatch (data : Array UInt8) (table : HashTable) (position : Nat) :
    Option (Match × HashTable) :=
  if position < matchLimit data then
    let table := table.insert data (position - 1)
    let found := table.matchAt? data position
    let table := table.insert data position
    match found with
    | some found => some (found, table)
    | none => searchFrom data (matchLimit data) table (position + 1) 0
  else none

/-- A match and those that follow it. -/
def matchesFrom (data : Array UInt8) (found : Option (Match × HashTable)) (fuel : Nat) :
    List Match :=
  match fuel, found with
  | fuel + 1, some (found, table) =>
    found :: matchesFrom data (nextMatch data table (found.start + found.length)) fuel
  | _, _ => []

/-- The matches of a piece, from left to right. Each takes at least four
bytes, so there are fewer of them than bytes. -/
def findMatches (data : Array UInt8) : List Match :=
  matchesFrom data (searchFrom data (matchLimit data) (HashTable.new data.size) 1 0) data.size

end RemoteWrite.Snappy
