import RemoteWrite.Snappy.Match

/-!
Contract: writing snappy blocks.

Owns:
- the cut of the data into pieces, within which copies stay;
- the elements that matches stand for, with literals between them;
- compression, and the bound on the size of its result.

A match is used only if it starts behind what is written already and its bytes
do agree, whoever found it.

Does not own: the search for matches, or the reading of blocks.
-/

namespace RemoteWrite.Snappy

/-- The data is compressed in pieces of at most this size. -/
def pieceSize : Nat := 65536

/-- Pieces below this size are not searched. -/
def smallestSearched : Nat := 17

def pieces (data : Bytes) : List Bytes :=
  match data with
  | [] => []
  | byte :: rest =>
    (byte :: rest.take (pieceSize - 1)) :: pieces (rest.drop (pieceSize - 1))
termination_by data.length
decreasing_by simp only [List.length_cons, List.length_drop]; omega

/-- The bytes of a match do agree, and there are at least four of them. -/
def Match.agrees (data : Array UInt8) (found : Match) : Bool :=
  4 ≤ found.length && 0 < found.offset && found.offset ≤ found.start &&
    found.start + found.length ≤ data.size &&
    (List.range found.length).all fun index =>
      byteAt data (found.start - found.offset + index) = byteAt data (found.start + index)

/-- The copies of at most 64 bytes that a match is written as. None is shorter
than four bytes. -/
def copies (offset length : Nat) : List Element :=
  if 68 ≤ length then .copy offset 64 :: copies offset (length - 64)
  else if 64 < length then [.copy offset 60, .copy offset (length - 60)]
  else [.copy offset length]
termination_by length

/-- The literal of the bytes between two positions, if there are any. -/
def literalBetween (data : Array UInt8) (start stop : Nat) : List Element :=
  if start < stop then [.literal (data.extract start stop).toList] else []

/-- The elements of a piece from the end of what is written on. -/
def elementsFrom (data : Array UInt8) (written : Nat) : List Match → List Element
  | [] => literalBetween data written data.size
  | found :: rest =>
    if written ≤ found.start && found.agrees data then
      literalBetween data written found.start ++ copies found.offset found.length ++
        elementsFrom data (found.start + found.length) rest
    else elementsFrom data written rest

def elementsOf (piece : Bytes) : List Element :=
  let data := piece.toArray
  elementsFrom data 0 (if data.size < smallestSearched then [] else findMatches data)

/-- A block: the length of the data, then the elements of each piece. -/
def write (data : Bytes) : Bytes :=
  lengthPreamble data.length ++
    (pieces data).flatMap fun piece => (elementsOf piece).flatMap Element.write

/-- The largest size that the block of so many bytes may have. -/
def worstCase (length : Nat) : Nat :=
  32 + length + length / 6

/-- Compress data, unless there is so much of it that its block might have no
32-bit size. -/
def compress? (data : Bytes) : Option Bytes :=
  if worstCase data.length ≤ maxLength then some (write data) else none

end RemoteWrite.Snappy
