import RemoteWrite.Snappy.Element

/-!
Contract: reading snappy blocks.

Owns:
- the announced length, which is read from at most five bytes and must be a
  number of 32 bits;
- the reading of elements;
- decompression, which fails unless the elements produce exactly the announced
  number of bytes.

An announced length that no output reaches costs nothing: the output grows
with the elements.

Does not own: the choice of elements when compressing.
-/

namespace RemoteWrite.Snappy

/-- Read a number in at most `groups` groups of seven bits. -/
def readLength : (groups : Nat) → Bytes → Option (Nat × Bytes)
  | 0, _ => none
  | _ + 1, [] => none
  | groups + 1, byte :: rest =>
    if byte < 0x80 then some (byte.toNat, rest)
    else
      match readLength groups rest with
      | none => none
      | some (high, rest) => some (byte.toNat - 128 + 128 * high, rest)

/-- The announced length and what follows it. -/
def readPreamble (block : Bytes) : Option (Nat × Bytes) :=
  match readLength 5 block with
  | none => none
  | some (length, rest) => if length ≤ maxLength then some (length, rest) else none

/-- The announced length of a block; an empty one announces nothing. -/
def announcedLength? (block : Bytes) : Option Nat :=
  match block with
  | [] => some 0
  | _ => (readPreamble block).map (·.1)

/-- The number of bytes, lowest first. -/
def numberOf : Bytes → Nat
  | [] => 0
  | byte :: rest => byte.toNat + 256 * numberOf rest

/-- Take a number of bytes that must be there. -/
def takeExactly (count : Nat) (bytes : Bytes) : Option (Bytes × Bytes) :=
  let taken := bytes.take count
  if taken.length = count then some (taken, bytes.drop count) else none

/-- Read a literal behind its tag. A length that does not fit in the tag
follows in up to four bytes, and four bytes must be there even if it takes
fewer. -/
def readLiteral (tag : Nat) (rest : Bytes) : Option (Element × Bytes) :=
  if tag < 60 then
    (takeExactly (tag + 1) rest).map fun (bytes, rest) => (.literal bytes, rest)
  else
    match takeExactly 4 rest with
    | none => none
    | some _ =>
      match takeExactly (tag - 59) rest with
      | none => none
      | some (lengthBytes, rest) =>
        (takeExactly (numberOf lengthBytes + 1) rest).map
          fun (bytes, rest) => (.literal bytes, rest)

/-- Read a copy behind its tag, whose offset takes one, two, or four bytes. -/
def readCopy (kind tag : Nat) (rest : Bytes) : Option (Element × Bytes) :=
  if kind = 1 then
    (takeExactly 1 rest).map fun (bytes, rest) =>
      (.copy (tag / 8 * 256 + numberOf bytes) (tag % 8 + 4), rest)
  else if kind = 2 then
    (takeExactly 2 rest).map fun (bytes, rest) => (.copy (numberOf bytes) (tag + 1), rest)
  else
    (takeExactly 4 rest).map fun (bytes, rest) => (.copy (numberOf bytes) (tag + 1), rest)

/-- Read one element. The low two bits of the first byte tell its kind. -/
def readElement : Bytes → Option (Element × Bytes)
  | [] => none
  | byte :: rest =>
    let kind := byte.toNat % 4
    let tag := byte.toNat / 4
    if kind = 0 then readLiteral tag rest else readCopy kind tag rest

theorem takeExactly_length {count : Nat} {bytes taken rest : Bytes}
    (read : takeExactly count bytes = some (taken, rest)) : rest.length ≤ bytes.length := by
  simp only [takeExactly] at read
  split at read
  · simp only [Option.some.injEq, Prod.mk.injEq] at read
    simp [← read.2]
  · contradiction

private theorem takeExactly_map_length {count : Nat} {bytes rest : Bytes} {element : Element}
    {build : Bytes × Bytes → Element × Bytes}
    (read : (takeExactly count bytes).map build = some (element, rest))
    (keepsRest : ∀ taken, (build taken).2 = taken.2) : rest.length ≤ bytes.length := by
  rw [Option.map_eq_some_iff] at read
  obtain ⟨taken, taking, built⟩ := read
  have sameRest : rest = taken.2 := by rw [← keepsRest taken, built]
  rw [sameRest]
  exact takeExactly_length taking

theorem readLiteral_length {tag : Nat} {bytes rest : Bytes} {element : Element}
    (read : readLiteral tag bytes = some (element, rest)) : rest.length ≤ bytes.length := by
  simp only [readLiteral] at read
  split at read
  · exact takeExactly_map_length read fun _ => rfl
  · split at read
    · contradiction
    · split at read
      · contradiction
      · rename_i taking
        exact Nat.le_trans (takeExactly_map_length read fun _ => rfl) (takeExactly_length taking)

theorem readCopy_length {kind tag : Nat} {bytes rest : Bytes} {element : Element}
    (read : readCopy kind tag bytes = some (element, rest)) : rest.length ≤ bytes.length := by
  simp only [readCopy] at read
  split at read
  · exact takeExactly_map_length read fun _ => rfl
  · split at read <;> exact takeExactly_map_length read fun _ => rfl

theorem readElement_length {bytes rest : Bytes} {element : Element}
    (read : readElement bytes = some (element, rest)) : rest.length < bytes.length := by
  cases bytes with
  | nil => simp [readElement] at read
  | cons byte following =>
      simp only [readElement] at read
      rw [List.length_cons, Nat.lt_succ_iff]
      split at read
      · exact readLiteral_length read
      · exact readCopy_length read

/-- Append what the elements of a block stand for, up to `limit` bytes in
all. -/
def expand (limit : Nat) (output : Array UInt8) (block : Bytes) : Option (Array UInt8) :=
  if block.isEmpty then some output
  else
    match _ : readElement block with
    | none => none
    | some (element, rest) =>
      match element.apply output with
      | none => none
      | some output => if limit < output.size then none else expand limit output rest
termination_by block.length
decreasing_by exact readElement_length ‹_›

/-- Decompress a block. An empty one is no block. -/
def decompress? (block : Bytes) : Option Bytes :=
  match block with
  | [] => none
  | _ =>
    match readPreamble block with
    | none => none
    | some (length, rest) =>
      match expand length #[] rest with
      | none => none
      | some output => if output.size = length then some output.toList else none

end RemoteWrite.Snappy
