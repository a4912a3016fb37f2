import RemoteWrite.Snappy.Decompress

/-!
Contract: elements and the length in front of them can be read back.

Owns:
- little-endian numbers and runs of bytes;
- the elements that have a written form, and reading them;
- the length in front of a block.

Does not own: what elements stand for.
-/

namespace RemoteWrite.Snappy

/-! ## Numbers and runs -/

theorem length_lowBytes (count n : Nat) : (lowBytes count n).length = count := by
  induction count generalizing n with
  | zero => rfl
  | succ count inductionHypothesis => rw [lowBytes, List.length_cons, inductionHypothesis]

/-- The bytes of a number say what remains of it. -/
theorem numberOf_lowBytes (count n : Nat) : numberOf (lowBytes count n) = n % 256 ^ count := by
  induction count generalizing n with
  | zero => rw [Nat.pow_zero, Nat.mod_one]; rfl
  | succ count inductionHypothesis =>
      have power : 256 ^ (count + 1) = 256 * 256 ^ count := Nat.pow_succ'
      rw [lowBytes, numberOf, inductionHypothesis, power, Nat.mod_mul, UInt8.toNat_ofNat']

theorem takeExactly_append {count : Nat} {taken : Bytes} (exact : taken.length = count)
    (rest : Bytes) : takeExactly count (taken ++ rest) = some (taken, rest) := by
  rw [takeExactly, List.take_left' exact, List.drop_left' exact, if_pos exact]

theorem takeExactly_of_le {count : Nat} {bytes : Bytes} (enough : count ≤ bytes.length) :
    takeExactly count bytes = some (bytes.take count, bytes.drop count) := by
  rw [takeExactly, if_pos (List.length_take_of_le enough)]

/-! ## Elements -/

/-- The elements that can be written: literals of 1 to 65536 bytes, and copies
of 1 to 64 bytes from less than 65536 bytes back. -/
def Element.Fits : Element → Prop
  | .literal bytes => 0 < bytes.length ∧ bytes.length ≤ 65536
  | .copy offset length => offset < 65536 ∧ 0 < length ∧ length ≤ 64

/-- The first byte of an element is its tag and its kind. -/
private theorem readElement_cons {first kind tag : Nat} (value : first = tag * 4 + kind)
    (small : kind < 4) (fits : tag < 64) (rest : Bytes) :
    readElement (UInt8.ofNat first :: rest) =
      if kind = 0 then readLiteral tag rest else readCopy kind tag rest := by
  have byte : (UInt8.ofNat first).toNat = tag * 4 + kind := by
    rw [UInt8.toNat_ofNat']
    omega
  have lowBits : (tag * 4 + kind) % 4 = kind := by omega
  have highBits : (tag * 4 + kind) / 4 = tag := by omega
  rw [readElement]
  simp only [byte, lowBits, highBits]

/-- A literal whose length does not fit in its tag. -/
private theorem readLiteral_long {extra : Nat} {bytes : Bytes} (wide : 0 < extra)
    (nonempty : 0 < bytes.length) (long : 4 ≤ extra + bytes.length)
    (fits : bytes.length - 1 < 256 ^ extra) (rest : Bytes) :
    readLiteral (59 + extra) (lowBytes extra (bytes.length - 1) ++ bytes ++ rest) =
      some (.literal bytes, rest) := by
  have outside : ¬ 59 + extra < 60 := by omega
  have enough : 4 ≤ (lowBytes extra (bytes.length - 1) ++ bytes ++ rest).length := by
    rw [List.length_append, List.length_append, length_lowBytes]
    omega
  have width : 59 + extra - 59 = extra := by omega
  have length : bytes.length - 1 + 1 = bytes.length := by omega
  rw [readLiteral, if_neg outside, takeExactly_of_le enough]
  simp only [width, List.append_assoc, takeExactly_append (length_lowBytes extra _),
    numberOf_lowBytes, Nat.mod_eq_of_lt fits, length, takeExactly_append rfl, Option.map_some]

private theorem readElement_literal {bytes : Bytes} (nonempty : 0 < bytes.length)
    (bounded : bytes.length ≤ 65536) (rest : Bytes) :
    readElement ((Element.literal bytes).write ++ rest) = some (.literal bytes, rest) := by
  have tagged {tag : Nat} (fits : tag < 64) (following : Bytes) :
      readElement (UInt8.ofNat (tag * 4) :: following) = readLiteral tag following :=
    readElement_cons rfl (by decide : 0 < 4) fits following
  rw [Element.write]
  by_cases short : bytes.length - 1 < 60
  · have length : bytes.length - 1 + 1 = bytes.length := by omega
    rw [if_pos short, List.cons_append, tagged (by omega), readLiteral, if_pos short, length,
      takeExactly_append rfl, Option.map_some]
  rw [if_neg short]
  by_cases medium : bytes.length - 1 < 256
  · rw [if_pos medium, List.cons_append, tagged (by decide)]
    exact readLiteral_long (by decide : 0 < 1) nonempty (by omega) medium rest
  · rw [if_neg medium, List.cons_append, tagged (by decide)]
    exact readLiteral_long (by decide : 0 < 2) nonempty (by omega) (by omega) rest

private theorem readElement_copy {offset length : Nat} (near : offset < 65536)
    (nonempty : 0 < length) (bounded : length ≤ 64) (rest : Bytes) :
    readElement ((Element.copy offset length).write ++ rest) =
      some (.copy offset length, rest) := by
  rw [Element.write]
  by_cases short : 4 ≤ length ∧ length ≤ 11 ∧ offset < 2048
  · have value : offset / 256 * 32 + (length - 4) * 4 + 1 =
      (offset / 256 * 8 + (length - 4)) * 4 + 1 := by omega
    have high : (offset / 256 * 8 + (length - 4)) / 8 = offset / 256 := by omega
    have low : (offset / 256 * 8 + (length - 4)) % 8 + 4 = length := by omega
    have sum : offset / 256 * 256 + offset % 256 ^ 1 = offset := by omega
    rw [if_pos short, List.cons_append, readElement_cons value (by decide) (by omega),
      if_neg (by decide), readCopy, if_pos rfl, takeExactly_append (length_lowBytes 1 _), high, low]
    simp only [Option.map_some, numberOf_lowBytes, sum]
  · have value : length - 1 + 1 = length := by omega
    have whole : offset % 256 ^ 2 = offset := Nat.mod_eq_of_lt near
    rw [if_neg short, List.cons_append, readElement_cons rfl (by decide) (by omega),
      if_neg (by decide), readCopy, if_neg (by decide), if_pos rfl,
      takeExactly_append (length_lowBytes 2 _), Option.map_some]
    simp only [numberOf_lowBytes, whole, value]

/-- An element is read back from its written form, whatever follows. -/
theorem readElement_write {element : Element} (fits : element.Fits) (rest : Bytes) :
    readElement (element.write ++ rest) = some (element, rest) := by
  cases element with
  | literal bytes => exact readElement_literal fits.1 fits.2 rest
  | copy offset length => exact readElement_copy fits.1 fits.2.1 fits.2.2 rest

/-! ## The length in front -/

theorem lengthPreamble_small {n : Nat} (small : n < 128) :
    lengthPreamble n = [UInt8.ofNat n] := by
  rw [lengthPreamble, if_pos small]

theorem lengthPreamble_large {n : Nat} (large : 128 ≤ n) :
    lengthPreamble n = UInt8.ofNat (n % 128 + 128) :: lengthPreamble (n / 128) := by
  rw [lengthPreamble, if_neg (Nat.not_lt.mpr large)]

private theorem readLength_small {groups n : Nat} (small : n < 128) (rest : Bytes) :
    readLength (groups + 1) (lengthPreamble n ++ rest) = some (n, rest) := by
  have byte : (UInt8.ofNat n).toNat = n := by
    rw [UInt8.toNat_ofNat']
    omega
  have last : UInt8.ofNat n < 0x80 := by
    rw [UInt8.lt_iff_toNat_lt, byte]
    exact small
  rw [lengthPreamble_small small, List.singleton_append, readLength, if_pos last, byte]

/-- A length is read back if it has no more groups than are read. -/
theorem readLength_lengthPreamble {groups n : Nat} (fits : n < 128 ^ (groups + 1))
    (rest : Bytes) :
    readLength (groups + 1) (lengthPreamble n ++ rest) = some (n, rest) := by
  induction groups generalizing n with
  | zero => exact readLength_small fits rest
  | succ groups inductionHypothesis =>
      by_cases small : n < 128
      · exact readLength_small small rest
      · have high : n / 128 < 128 ^ (groups + 1) := Nat.div_lt_of_lt_mul (by
          rwa [Nat.pow_succ'] at fits)
        have byte : (UInt8.ofNat (n % 128 + 128)).toNat = n % 128 + 128 := by
          rw [UInt8.toNat_ofNat']
          omega
        have goesOn : ¬ UInt8.ofNat (n % 128 + 128) < 0x80 := by
          rw [UInt8.lt_iff_toNat_lt, byte]
          exact Nat.not_lt.mpr (Nat.le_add_left 128 _)
        have value : n % 128 + 128 - 128 + 128 * (n / 128) = n := by omega
        rw [lengthPreamble_large (Nat.le_of_not_lt small), List.cons_append, readLength,
          if_neg goesOn, inductionHypothesis high]
        simp only [byte, value]

/-- A length of 32 bits is read back from the front of a block. -/
theorem readPreamble_lengthPreamble {n : Nat} (fits : n ≤ maxLength) (rest : Bytes) :
    readPreamble (lengthPreamble n ++ rest) = some (n, rest) := by
  have groups : n < 128 ^ (4 + 1) := by
    rw [maxLength] at fits
    omega
  rw [readPreamble, readLength_lengthPreamble groups]
  simp only [if_pos fits]

end RemoteWrite.Snappy
