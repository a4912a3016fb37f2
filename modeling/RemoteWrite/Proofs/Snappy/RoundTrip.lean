import RemoteWrite.Proofs.Snappy.Element
import RemoteWrite.Snappy.Compress

/-!
Contract: a block decompresses to the data it was made of.

The search for matches is not part of the argument. A match that the writer
uses agrees with the data, so copying it continues the data.

Owns:
- what a list of elements produces, and its reading from a block;
- the elements of matches, pieces, and blocks;
- the length of whatever a block decompresses to.

Does not own: the size of blocks.
-/

namespace RemoteWrite.Snappy

/-! ## Producing -/

/-- Append what a list of elements stands for. -/
def produce (output : Array UInt8) (elements : List Element) : Option (Array UInt8) :=
  elements.foldlM Element.apply output

theorem produce_append {output middle : Array UInt8} {left : List Element}
    (produces : produce output left = some middle) (right : List Element) :
    produce output (left ++ right) = produce middle right := by
  rw [produce, List.foldlM_append]
  exact congrArg (Option.bind · (produce · right)) produces

private theorem append_eq_append_toArray (output : Array UInt8) (bytes : Bytes) :
    output ++ bytes = output ++ bytes.toArray :=
  Array.ext' (by rw [Array.toList_appendList, Array.toList_append])

theorem size_copyBytes {offset length : Nat} {output result : Array UInt8}
    (copies : copyBytes offset length output = some result) : output.size ≤ result.size := by
  induction length generalizing output with
  | zero =>
      cases copies
      exact Nat.le_refl _
  | succ length inductionHypothesis =>
      rw [copyBytes] at copies
      by_cases zero : offset = 0
      · rw [if_pos zero] at copies
        cases copies
      rw [if_neg zero] at copies
      cases found : output[output.size - offset]? with
      | none =>
          simp only [found] at copies
          cases copies
      | some byte =>
          simp only [found] at copies
          by_cases inside : offset ≤ output.size
          · rw [if_pos inside] at copies
            have grows := inductionHypothesis copies
            rw [Array.size_push] at grows
            exact Nat.le_of_succ_le grows
          · rw [if_neg inside] at copies
            cases copies

theorem size_apply {element : Element} {output result : Array UInt8}
    (applies : element.apply output = some result) : output.size ≤ result.size := by
  cases element with
  | literal bytes =>
      cases applies
      rw [append_eq_append_toArray, Array.size_append]
      exact Nat.le_add_right _ _
  | copy offset length =>
      rw [Element.apply] at applies
      by_cases inside : 0 < offset ∧ offset ≤ output.size
      · rw [if_pos inside] at applies
        exact size_copyBytes applies
      · rw [if_neg inside] at applies
        cases applies

theorem size_produce {elements : List Element} {output result : Array UInt8}
    (produces : produce output elements = some result) : output.size ≤ result.size := by
  induction elements generalizing output with
  | nil =>
      cases produces
      exact Nat.le_refl _
  | cons element rest inductionHypothesis =>
      obtain ⟨next, applies, produces⟩ := Option.bind_eq_some_iff.mp produces
      exact Nat.le_trans (size_apply applies) (inductionHypothesis produces)

/-- The elements of a block are read one after the other as long as their
output stays within the limit. -/
theorem expand_write {limit : Nat} {elements : List Element} {output result : Array UInt8}
    (fits : ∀ element ∈ elements, element.Fits) (produces : produce output elements = some result)
    (bounded : result.size ≤ limit) :
    expand limit output (elements.flatMap Element.write) = some result := by
  induction elements generalizing output with
  | nil =>
      rw [List.flatMap_nil, expand]
      exact produces
  | cons element rest inductionHypothesis =>
      obtain ⟨next, applies, produces⟩ := Option.bind_eq_some_iff.mp produces
      have read := readElement_write (fits element List.mem_cons_self)
        (rest.flatMap Element.write)
      -- Outputs only grow, so the bound of the last one holds for all of them.
      have within : ¬ limit < next.size :=
        Nat.not_lt.mpr (Nat.le_trans (size_produce produces) bounded)
      have continues := inductionHypothesis
        (fun other member => fits other (List.mem_cons_of_mem element member)) produces
      have nonempty : ¬ (element.write ++ rest.flatMap Element.write).isEmpty = true := by
        intro empty
        rw [List.isEmpty_iff.mp empty] at read
        cases read
      rw [List.flatMap_cons, expand, if_neg nonempty]
      split
      next unread =>
        cases read.symm.trans unread
      next other following readOther =>
        cases read.symm.trans readOther
        simp only [applies, if_neg within, continues]

/-! ## Continuing data -/

/-- The elements continue data from one position to another, whatever comes
before the data. -/
structure Continues (data : Array UInt8) (start stop : Nat) (elements : List Element) : Prop where
  fits : ∀ element ∈ elements, element.Fits
  produces : ∀ earlier : Array UInt8,
    produce (earlier ++ data.extract 0 start) elements = some (earlier ++ data.extract 0 stop)

/-- The bytes between two positions equal those from an offset further back. -/
structure Repeats (data : Array UInt8) (offset start stop : Nat) : Prop where
  positive : 0 < offset
  inside : offset ≤ start
  bounded : stop ≤ data.size
  same : ∀ position, start ≤ position → position < stop →
    byteAt data (position - offset) = byteAt data position

theorem Repeats.part {data : Array UInt8} {offset start stop first last : Nat}
    (repeats : Repeats data offset start stop) (after : start ≤ first) (before : last ≤ stop) :
    Repeats data offset first last where
  positive := repeats.positive
  inside := Nat.le_trans repeats.inside after
  bounded := Nat.le_trans before repeats.bounded
  same position low high :=
    repeats.same position (Nat.le_trans after low) (Nat.lt_of_lt_of_le high before)

theorem byteAt_of_lt {data : Array UInt8} {position : Nat} (inside : position < data.size) :
    byteAt data position = data[position] := by
  rw [byteAt, Array.getD_eq_getD_getElem?, Array.getElem?_eq_getElem inside, Option.getD_some]

/-- A copy of bytes that repeat continues the data. -/
theorem copyBytes_repeats {data : Array UInt8} {offset start length : Nat}
    (repeats : Repeats data offset start (start + length)) (earlier : Array UInt8) :
    copyBytes offset length (earlier ++ data.extract 0 start) =
      some (earlier ++ data.extract 0 (start + length)) := by
  induction length generalizing start with
  | zero => rfl
  | succ length inductionHypothesis =>
      have rest : Repeats data offset (start + 1) (start + 1 + length) :=
        repeats.part (by omega) (by omega)
      obtain ⟨positive, inside, bounded, same⟩ := repeats
      have within : start < data.size := by omega
      have size : (earlier ++ data.extract 0 start).size = earlier.size + start := by
        rw [Array.size_append, Array.size_extract]
        omega
      -- The copy may reach into its own output, which is data as well by then.
      have byte : (earlier ++ data.extract 0 start)[earlier.size + start - offset]? =
          some (byteAt data start) := by
        have behind : earlier.size ≤ earlier.size + start - offset := by omega
        have distance : earlier.size + start - offset - earlier.size = start - offset := by omega
        have before : start - offset < start := by omega
        rw [Array.getElem?_append_right behind, distance, Array.getElem?_extract,
          if_pos (by omega), Nat.zero_add, ← same start (Nat.le_refl start) (by omega),
          byteAt_of_lt (by omega), Array.getElem?_eq_getElem]
      have next : (earlier ++ data.extract 0 start).push (byteAt data start) =
          earlier ++ data.extract 0 (start + 1) := by
        rw [Array.push_append, byteAt_of_lt within, Array.push_extract_getElem, Nat.zero_min]
      rw [copyBytes, if_neg (by omega), size, byte]
      simp only [next]
      rw [if_pos (by omega), inductionHypothesis rest, Nat.add_right_comm, Nat.add_assoc]

namespace Continues

variable {data : Array UInt8} {start middle stop : Nat}

theorem nil (data : Array UInt8) (position : Nat) : Continues data position position [] where
  fits _ member := nomatch member
  produces _ := rfl

theorem append {left right : List Element} (first : Continues data start middle left)
    (second : Continues data middle stop right) : Continues data start stop (left ++ right) where
  fits element member := by
    rcases List.mem_append.mp member with member | member
    · exact first.fits element member
    · exact second.fits element member
  produces earlier := by rw [produce_append (first.produces earlier), second.produces]

theorem literalBetween (small : data.size ≤ pieceSize) (ordered : start ≤ stop)
    (bounded : stop ≤ data.size) :
    Continues data start stop (Snappy.literalBetween data start stop) := by
  rw [Snappy.literalBetween]
  by_cases nonempty : start < stop
  · rw [if_pos nonempty]
    constructor
    case fits =>
      intro element member
      cases List.mem_singleton.mp member
      rw [pieceSize] at small
      show 0 < _ ∧ _ ≤ 65536
      rw [Array.length_toList, Array.size_extract]
      omega
    case produces =>
      intro earlier
      have joined : data.extract 0 start ++ data.extract start stop = data.extract 0 stop := by
        rw [Array.extract_append_extract, Nat.zero_min, Nat.max_eq_right ordered]
      show some _ = some _
      rw [append_eq_append_toArray, Array.toArray_toList, Array.append_assoc, joined]
  · have same : start = stop := by omega
    rw [if_neg nonempty, same]
    exact nil data stop

theorem copy {offset length : Nat} (repeats : Repeats data offset start (start + length))
    (near : offset < 65536) (nonempty : 0 < length) (bounded : length ≤ 64) :
    Continues data start (start + length) [.copy offset length] where
  fits element member := by
    cases List.mem_singleton.mp member
    exact ⟨near, nonempty, bounded⟩
  produces earlier := by
    have inside : 0 < offset ∧ offset ≤ (earlier ++ data.extract 0 start).size := by
      have within := repeats.bounded
      have before := repeats.inside
      rw [Array.size_append, Array.size_extract]
      exact ⟨repeats.positive, by omega⟩
    show (Element.apply _ (.copy offset length)).bind some = _
    rw [Element.apply, if_pos inside, copyBytes_repeats repeats earlier, Option.bind_some]

theorem copies {offset length : Nat} (repeats : Repeats data offset start (start + length))
    (near : offset < 65536) (nonempty : 0 < length) :
    Continues data start (start + length) (Snappy.copies offset length) := by
  induction length using Snappy.copies.induct generalizing start with
  | case1 length long inductionHypothesis =>
      have first := copy (repeats.part (Nat.le_refl start) (by omega : start + 64 ≤ _)) near
        (by decide) (Nat.le_refl 64)
      have stop : start + 64 + (length - 64) = start + length := by omega
      have later : Repeats data offset (start + 64) (start + 64 + (length - 64)) :=
        repeats.part (Nat.le_add_right start 64) (Nat.le_of_eq stop)
      have rest := inductionHypothesis later (by omega)
      rw [Snappy.copies, if_pos long, ← stop]
      exact first.append rest
  | case2 length short medium =>
      have first := copy (repeats.part (Nat.le_refl start) (by omega : start + 60 ≤ _)) near
        (by decide) (by decide)
      have stop : start + 60 + (length - 60) = start + length := by omega
      have later : Repeats data offset (start + 60) (start + 60 + (length - 60)) :=
        repeats.part (Nat.le_add_right start 60) (Nat.le_of_eq stop)
      have second := copy later near (by omega) (by omega)
      rw [Snappy.copies, if_neg short, if_pos medium, ← stop]
      exact first.append second
  | case3 length short shorter =>
      rw [Snappy.copies, if_neg short, if_neg shorter]
      exact copy repeats near nonempty (Nat.le_of_not_lt shorter)

end Continues

/-! ## Pieces -/

/-- A match that the writer uses agrees with the data. -/
theorem Match.repeats {data : Array UInt8} {found : Match} (agrees : found.agrees data = true) :
    4 ≤ found.length ∧
      Repeats data found.offset found.start (found.start + found.length) := by
  simp only [Match.agrees, Bool.and_eq_true, decide_eq_true_eq, List.all_eq_true,
    List.mem_range] at agrees
  obtain ⟨⟨⟨⟨long, positive⟩, inside⟩, bounded⟩, same⟩ := agrees
  refine ⟨long, positive, inside, bounded, fun position after before => ?_⟩
  have equal := same (position - found.start) (by omega)
  have earlier : found.start - found.offset + (position - found.start) =
    position - found.offset := by omega
  have later : found.start + (position - found.start) = position := by omega
  rwa [earlier, later] at equal

/-- The elements of a piece continue it to its end, whatever matches are
proposed. -/
theorem elementsFrom_continues {data : Array UInt8} (small : data.size ≤ pieceSize)
    (proposed : List Match) {written : Nat} (bounded : written ≤ data.size) :
    Continues data written data.size (elementsFrom data written proposed) := by
  -- What is written so far is all that a proposal depends on.
  induction proposed generalizing written with
  | nil => exact .literalBetween small bounded (Nat.le_refl _)
  | cons found rest inductionHypothesis =>
      rw [elementsFrom]
      by_cases usable : (written ≤ found.start && found.agrees data) = true
      · rw [if_pos usable]
        simp only [Bool.and_eq_true, decide_eq_true_eq] at usable
        obtain ⟨long, repeats⟩ := Match.repeats usable.2
        have within := repeats.bounded
        have behind := repeats.inside
        rw [pieceSize] at small
        have skipped := Continues.literalBetween small usable.1 (by omega : found.start ≤ _)
        have copied := Continues.copies repeats (by omega) (by omega)
        exact (skipped.append copied).append (inductionHypothesis within)
      · rw [if_neg usable]
        exact inductionHypothesis bounded

theorem elementsOf_produces {piece : Bytes} (small : piece.length ≤ pieceSize) :
    (∀ element ∈ elementsOf piece, element.Fits) ∧
      ∀ output, produce output (elementsOf piece) = some (output ++ piece.toArray) := by
  have continues : Continues piece.toArray 0 piece.toArray.size (elementsOf piece) :=
    elementsFrom_continues small _ (Nat.zero_le _)
  refine ⟨continues.fits, fun output => ?_⟩
  have produces := continues.produces output
  rwa [Array.extract_zero, Array.append_empty, Array.extract_size] at produces

theorem pieces_small (data : Bytes) : ∀ piece ∈ pieces data, piece.length ≤ pieceSize := by
  induction data using pieces.induct with
  | case1 =>
      rw [pieces]
      exact nofun
  | case2 byte rest inductionHypothesis =>
      intro piece member
      rw [pieces] at member
      rcases List.mem_cons.mp member with rfl | member
      · rw [pieceSize, List.length_cons, List.length_take]
        omega
      · exact inductionHypothesis piece member

theorem flatten_pieces (data : Bytes) : (pieces data).flatten = data := by
  induction data using pieces.induct with
  | case1 => rw [pieces, List.flatten_nil]
  | case2 byte rest inductionHypothesis =>
      rw [pieces, List.flatten_cons, inductionHypothesis, List.cons_append, List.take_append_drop]

theorem flatMap_elementsOf_produces {parts : List Bytes}
    (small : ∀ piece ∈ parts, piece.length ≤ pieceSize) (output : Array UInt8) :
    produce output (parts.flatMap elementsOf) = some (output ++ parts.flatten.toArray) := by
  induction parts generalizing output with
  | nil => rfl
  | cons piece rest inductionHypothesis =>
      have first := (elementsOf_produces (small piece List.mem_cons_self)).2 output
      have others := inductionHypothesis
        (fun other member => small other (List.mem_cons_of_mem piece member))
      rw [List.flatMap_cons, produce_append first, others, List.flatten_cons, Array.append_assoc,
        List.append_toArray piece]

/-! ## Blocks -/

/-- What follows the length in a block produces the data. -/
theorem expand_pieces (data : Bytes) :
    expand data.length #[]
        ((pieces data).flatMap fun piece => (elementsOf piece).flatMap Element.write) =
      some data.toArray := by
  have produces := flatMap_elementsOf_produces (pieces_small data) #[]
  rw [flatten_pieces, Array.empty_append] at produces
  have fits : ∀ element ∈ (pieces data).flatMap elementsOf, element.Fits := by
    intro element member
    obtain ⟨piece, inData, inPiece⟩ := List.mem_flatMap.mp member
    exact (elementsOf_produces (pieces_small data piece inData)).1 element inPiece
  rw [← List.flatMap_assoc]
  exact expand_write fits produces (Nat.le_refl _)

theorem lengthPreamble_ne_nil (n : Nat) : lengthPreamble n ≠ [] := by
  by_cases small : n < 128
  · rw [lengthPreamble_small small]
    exact List.cons_ne_nil _ _
  · rw [lengthPreamble_large (Nat.le_of_not_lt small)]
    exact List.cons_ne_nil _ _

theorem write_ne_nil (data : Bytes) : write data ≠ [] :=
  List.append_ne_nil_of_left_ne_nil (lengthPreamble_ne_nil data.length) _

/-- A block decompresses to the data that it was made of. -/
theorem decompress_write {data : Bytes} (fits : data.length ≤ maxLength) :
    decompress? (write data) = some data := by
  have preamble := readPreamble_lengthPreamble fits
    ((pieces data).flatMap fun piece => (elementsOf piece).flatMap Element.write)
  rw [decompress?]
  · rw [write, preamble]
    simp only [expand_pieces, List.size_toArray, if_true]
  · exact write_ne_nil data

/-- A block announces the length of the data that it was made of. -/
theorem announcedLength_write {data : Bytes} (fits : data.length ≤ maxLength) :
    announcedLength? (write data) = some data.length := by
  rw [announcedLength?]
  · rw [write, readPreamble_lengthPreamble fits, Option.map_some]
  · exact write_ne_nil data

/-- What any block decompresses to is as long as it announces. -/
theorem announcedLength_of_decompress {block plain : Bytes}
    (read : decompress? block = some plain) : announcedLength? block = some plain.length := by
  cases block with
  | nil => cases read
  | cons byte rest =>
      rw [decompress?] at read
      · cases preamble : readPreamble (byte :: rest) with
        | none =>
            rw [preamble] at read
            cases read
        | some announced =>
            obtain ⟨length, elements⟩ := announced
            simp only [preamble] at read
            cases expanded : expand length #[] elements with
            | none =>
                rw [expanded] at read
                cases read
            | some output =>
                simp only [expanded, Option.ite_none_right_eq_some, Option.some.injEq] at read
                obtain ⟨complete, rfl⟩ := read
                rw [announcedLength?, preamble, Option.map_some, Array.length_toList, complete]
                exact List.cons_ne_nil _ _
      · exact List.cons_ne_nil _ _

end RemoteWrite.Snappy
