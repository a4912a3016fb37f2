import RemoteWrite.Proofs.Snappy.RoundTrip

/-!
Contract: no block is longer than the worst case for its data.

A copy is shorter than the bytes it stands for. A literal is longer than its
bytes, by one byte and one more for every sixty of them. Where a match follows
a literal, its copies pay for the first of these bytes, so a piece of the data
loses one byte at its end and one for every sixty.

Owns:
- the size of elements, of the copies of a match, and of pieces;
- the size of the length in front;
- the bound on the size of blocks.

Does not own: the search for matches, which no bound depends on.
-/

namespace RemoteWrite.Snappy

/-- The number of bytes that a list of elements is written in. -/
def writtenSize (elements : List Element) : Nat :=
  (elements.flatMap Element.write).length

theorem writtenSize_append (left right : List Element) :
    writtenSize (left ++ right) = writtenSize left + writtenSize right := by
  unfold writtenSize
  rw [List.flatMap_append, List.length_append]

theorem writtenSize_cons (element : Element) (rest : List Element) :
    writtenSize (element :: rest) = element.write.length + writtenSize rest := by
  unfold writtenSize
  rw [List.flatMap_cons, List.length_append]

@[simp]
theorem writtenSize_nil : writtenSize [] = 0 := rfl

@[simp]
theorem writtenSize_singleton (element : Element) :
    writtenSize [element] = element.write.length := by
  rw [writtenSize_cons, writtenSize_nil, Nat.add_zero]

/-! ## Elements -/

theorem length_write_literal {bytes : Bytes} (nonempty : 0 < bytes.length) :
    (Element.literal bytes).write.length ≤ bytes.length + bytes.length / 60 + 1 := by
  unfold Element.write
  by_cases short : bytes.length - 1 < 60
  · simp only [if_pos short, List.length_cons]
    omega
  by_cases medium : bytes.length - 1 < 256
  · simp only [if_neg short, if_pos medium, List.length_cons, List.length_append, length_lowBytes]
    omega
  · simp only [if_neg short, if_neg medium, List.length_cons, List.length_append,
      length_lowBytes]
    omega

theorem length_write_copy (offset length : Nat) : (Element.copy offset length).write.length ≤ 3 := by
  unfold Element.write
  by_cases short : 4 ≤ length ∧ length ≤ 11 ∧ offset < 2048
  · simp only [if_pos short, List.length_cons, length_lowBytes]
    omega
  · simp only [if_neg short, List.length_cons, length_lowBytes]
    omega

/-- The copies of a match are shorter than the match. -/
theorem writtenSize_copies {length : Nat} (offset : Nat) (long : 4 ≤ length) :
    writtenSize (copies offset length) < length := by
  induction length using copies.induct with
  | case1 length full inductionHypothesis =>
      have first := length_write_copy offset 64
      have rest := inductionHypothesis (by omega)
      rw [copies, if_pos full, writtenSize_cons]
      omega
  | case2 length short medium =>
      have first := length_write_copy offset 60
      have second := length_write_copy offset (length - 60)
      rw [copies, if_neg short, if_pos medium, writtenSize_cons, writtenSize_singleton]
      omega
  | case3 length short shorter =>
      have only := length_write_copy offset length
      rw [copies, if_neg short, if_neg shorter, writtenSize_singleton]
      omega

theorem writtenSize_literalBetween {data : Array UInt8} {start stop : Nat}
    (bounded : stop ≤ data.size) :
    writtenSize (literalBetween data start stop) ≤ (stop - start) + (stop - start) / 60 + 1 := by
  unfold literalBetween
  by_cases nonempty : start < stop
  · have length : (data.extract start stop).toList.length = stop - start := by
      rw [Array.length_toList, Array.size_extract, Nat.min_eq_left bounded]
    have literal := length_write_literal (length ▸ Nat.sub_pos_of_lt nonempty)
    rwa [if_pos nonempty, writtenSize_singleton, ← length]
  · rw [if_neg nonempty, writtenSize_nil]
    exact Nat.zero_le _

/-! ## Pieces -/

/-- What remains of a piece costs one byte at its end and one for every sixty,
whatever matches are proposed. -/
theorem writtenSize_elementsFrom {data : Array UInt8} (proposed : List Match) {written : Nat}
    (bounded : written ≤ data.size) :
    writtenSize (elementsFrom data written proposed) ≤
      (data.size - written) + (data.size - written) / 60 + 1 := by
  induction proposed generalizing written with
  | nil =>
      rw [elementsFrom]
      exact writtenSize_literalBetween (Nat.le_refl _)
  | cons found rest inductionHypothesis =>
      rw [elementsFrom]
      by_cases usable : (written ≤ found.start && found.agrees data) = true
      · simp only [if_pos usable]
        simp only [Bool.and_eq_true, decide_eq_true_eq] at usable
        obtain ⟨long, repeats⟩ := Match.repeats usable.2
        have within := repeats.bounded
        have before := usable.1
        -- The byte that the copies save is the one that the literal costs.
        have reached : found.start ≤ data.size := by omega
        have literal : writtenSize (literalBetween data written found.start) ≤ _ :=
          writtenSize_literalBetween reached
        have saved := writtenSize_copies found.offset long
        have remaining := inductionHypothesis within
        rw [writtenSize_append, writtenSize_append]
        omega
      · rw [if_neg usable]
        exact inductionHypothesis bounded

theorem writtenSize_elementsOf (piece : Bytes) :
    writtenSize (elementsOf piece) ≤ piece.length + piece.length / 60 + 1 := by
  have bound : writtenSize (elementsOf piece) ≤ _ :=
    writtenSize_elementsFrom _ (Nat.zero_le piece.toArray.size)
  rwa [Nat.sub_zero, List.size_toArray] at bound

/-- Every piece costs a byte of its own. -/
theorem length_pieces_write (data : Bytes) :
    ((pieces data).flatMap fun piece => (elementsOf piece).flatMap Element.write).length ≤
      data.length + data.length / 60 + (data.length + (pieceSize - 1)) / pieceSize := by
  induction data using pieces.induct with
  | case1 =>
      rw [pieces]
      exact Nat.zero_le _
  | case2 byte rest inductionHypothesis =>
      have first := writtenSize_elementsOf (byte :: rest.take (pieceSize - 1))
      rw [pieces, List.flatMap_cons, List.length_append]
      simp only [writtenSize, pieceSize, List.length_cons, List.length_take,
        List.length_drop] at first inductionHypothesis ⊢
      omega

/-! ## Blocks -/

/-- A length takes no more bytes than it has groups of seven bits. -/
theorem length_lengthPreamble_le {groups n : Nat} (fits : n < 128 ^ (groups + 1)) :
    (lengthPreamble n).length ≤ groups + 1 := by
  induction groups generalizing n with
  | zero =>
      rw [lengthPreamble_small fits]
      exact Nat.le_refl 1
  | succ groups inductionHypothesis =>
      by_cases small : n < 128
      · rw [lengthPreamble_small small]
        exact Nat.le_add_left 1 (groups + 1)
      · have high : n / 128 < 128 ^ (groups + 1) := Nat.div_lt_of_lt_mul (by
          rwa [Nat.pow_succ'] at fits)
        rw [lengthPreamble_large (Nat.le_of_not_lt small), List.length_cons]
        exact Nat.succ_le_succ (inductionHypothesis high)

/-- A block is no longer than the worst case for its data. -/
theorem length_write_le {data : Bytes} (fits : data.length ≤ maxLength) :
    (write data).length ≤ worstCase data.length := by
  unfold maxLength at fits
  have preamble : (lengthPreamble data.length).length ≤ 4 + 1 :=
    length_lengthPreamble_le (by omega)
  have elements := length_pieces_write data
  unfold pieceSize at elements
  unfold write worstCase
  rw [List.length_append]
  omega

end RemoteWrite.Snappy
