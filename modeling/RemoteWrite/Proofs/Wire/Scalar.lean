import RemoteWrite.Proofs.Text.Utf8
import RemoteWrite.Proofs.Wire.Varint
import RemoteWrite.Wire.Scalar

/-!
Contract: every scalar encoding is as long as its computed size and is read
back bit for bit.

Owns:
- the law of a scalar encoding;
- its proof for integers, floating-point numbers, and texts.

Does not own: bytes that other writers choose for the same value.
-/

namespace RemoteWrite.Wire

/-- The law of a scalar encoding, for all values whose size is a number of 64
bits. -/
structure Scalar.Lawful {α : Type} (scalar : Scalar α) : Prop where
  write_ne_nil : ∀ value, scalar.write value ≠ []
  length_write : ∀ {value}, scalar.size value < 2 ^ 64 →
    (scalar.write value).length = scalar.size value
  reads_write : ∀ {value}, scalar.size value < 2 ^ 64 →
    Reads scalar.read (scalar.write value) value

/-! ## Arithmetic of the encodings -/

theorem unzigzag_zigzag (n : Int) : unzigzag (zigzag n) = n := by
  unfold unzigzag zigzag
  split <;> split <;> omega

/-- Zigzag doubles the range of one sign. -/
theorem zigzag_lt {n : Int} {bound : Nat} (low : -bound ≤ n) (high : n < bound) :
    zigzag n < 2 * bound := by
  unfold zigzag
  split <;> omega

theorem length_littleEndian (bits : UInt64) : (littleEndian bits).length = 8 := by
  rw [littleEndian, List.length_map, List.length_range]

/-- Lowest bytes first, as many of them as asked for. -/
private theorem ofLittleEndian_bytes (n count : Nat) :
    ofLittleEndian ((List.range count).map fun index => UInt8.ofNat (n / 256 ^ index)) =
      n % 256 ^ count := by
  induction count generalizing n with
  | zero => rw [Nat.pow_zero, Nat.mod_one]; rfl
  | succ count inductionHypothesis =>
      have shifted : (List.range count).map (fun index => UInt8.ofNat (n / 256 ^ (index + 1))) =
          (List.range count).map fun index => UInt8.ofNat (n / 256 / 256 ^ index) := by
        apply List.map_congr_left
        intro index _
        rw [Nat.pow_succ, Nat.mul_comm, Nat.div_div_eq_div_mul]
      rw [List.range_succ_eq_map, List.map_cons, List.map_map]
      simp only [Function.comp_def, Nat.succ_eq_add_one]
      rw [shifted, ofLittleEndian, inductionHypothesis, UInt8.toNat_ofNat', Nat.pow_zero,
        Nat.div_one, Nat.pow_succ 256 count, Nat.mul_comm (256 ^ count) 256, Nat.mod_mul]

theorem ofLittleEndian_littleEndian (bits : UInt64) :
    ofLittleEndian (littleEndian bits) = bits.toNat := by
  rw [littleEndian, ofLittleEndian_bytes]
  exact Nat.mod_eq_of_lt bits.toNat_lt

/-! ## The encodings -/

namespace Scalar

/-- Reading undoes writing for numbers of 64 bits that stand for values. -/
theorem ofVarint_lawful {α : Type} {toNumber : α → Nat} {ofNumber : UInt64 → α}
    (bounded : ∀ value, toNumber value < 2 ^ 64)
    (inverse : ∀ value, ofNumber (UInt64.ofNat (toNumber value)) = value) :
    (ofVarint toNumber ofNumber).Lawful where
  write_ne_nil value := varint_ne_nil (toNumber value)
  length_write {value} _ := length_varint_eq (bounded value)
  reads_write {value} _ rest := by
    simp only [ofVarint, reads_varint (bounded value) rest, inverse]

theorem uint64_lawful : uint64.Lawful :=
  ofVarint_lawful UInt64.toNat_lt fun _ => UInt64.ofNat_toNat

theorem uint32_lawful : uint32.Lawful := by
  have bounded (value : UInt32) : value.toNat < 2 ^ 64 :=
    Nat.lt_trans value.toNat_lt (by decide)
  refine ofVarint_lawful bounded fun value => ?_
  apply UInt32.toNat_inj.mp
  rw [UInt64.toNat_toUInt32, UInt64.toNat_ofNat', Nat.mod_eq_of_lt (bounded value),
    Nat.mod_eq_of_lt value.toNat_lt]

theorem int64_lawful : int64.Lawful := by
  refine ofVarint_lawful (fun value => value.toUInt64.toNat_lt) fun value => ?_
  rw [UInt64.ofNat_toNat, Int64.toInt64_toUInt64]

/-- The low 32 bits of a sign extension are the number itself. -/
private theorem toInt32_signExtended (value : Int32) :
    value.toInt64.toUInt64.toUInt32.toInt32 = value := by
  apply Int32.toBitVec.inj
  apply BitVec.eq_of_getElem_eq
  intro index bound
  change ((value.toBitVec.signExtend 64).setWidth 32)[index] = _
  simp only [BitVec.getElem_setWidth, BitVec.getLsbD_signExtend, bound, ↓reduceIte,
    BitVec.getLsbD_eq_getElem, Bool.and_eq_right_iff_imp, decide_eq_true_eq]
  omega

theorem int32_lawful : int32.Lawful := by
  refine ofVarint_lawful (fun value => value.toInt64.toUInt64.toNat_lt) fun value => ?_
  rw [UInt64.ofNat_toNat, toInt32_signExtended]

theorem sint64_lawful : sint64.Lawful := by
  have bounded (value : Int64) : zigzag value.toInt < 2 ^ 64 :=
    zigzag_lt value.le_toInt value.toInt_lt
  refine ofVarint_lawful bounded fun value => ?_
  rw [UInt64.toNat_ofNat', Nat.mod_eq_of_lt (bounded value), unzigzag_zigzag,
    Int64.ofInt_toInt]

theorem sint32_lawful : sint32.Lawful := by
  have narrow (value : Int32) : zigzag value.toInt < 2 ^ 32 :=
    zigzag_lt value.le_toInt value.toInt_lt
  have bounded (value : Int32) : zigzag value.toInt < 2 ^ 64 :=
    Nat.lt_trans (narrow value) (by decide)
  refine ofVarint_lawful bounded fun value => ?_
  rw [UInt64.toNat_toUInt32, UInt64.toNat_ofNat', Nat.mod_eq_of_lt (bounded value),
    Nat.mod_eq_of_lt (narrow value), unzigzag_zigzag, Int32.ofInt_toInt]

/-- All bits of a number come back, those of a NaN included. -/
theorem double_lawful : double.Lawful where
  write_ne_nil value := by
    intro empty
    have length := length_littleEndian value.bits
    rw [show littleEndian value.bits = [] from empty] at length
    contradiction
  length_write _ := length_littleEndian _
  reads_write {value} _ rest := by
    have taken := Input.take_append (littleEndian value.bits) rest
    rw [length_littleEndian] at taken
    simp only [double, taken, ofLittleEndian_littleEndian, UInt64.ofNat_toNat]

/-- A text is read behind its length, in whatever form the length is written. -/
theorem reads_text {value : String} {lengthBytes : Bytes}
    (isLength : IsVarint (Text.utf8 value).length lengthBytes) :
    Reads text.read (lengthBytes ++ Text.utf8 value) value := by
  intro rest
  have announced := isLength.reads (Text.utf8 value ++ rest)
  simp only [text, List.append_assoc, announced, isLength.toNat, Input.take_append,
    Text.ofUtf8?_utf8]

theorem text_lawful : text.Lawful where
  write_ne_nil value := List.append_ne_nil_of_left_ne_nil (varint_ne_nil _) _
  length_write {value} fits := by
    have length : value.utf8ByteSize < 2 ^ 64 := Nat.lt_of_le_of_lt (Nat.le_add_left _ _) fits
    simp only [text, List.length_append, Text.length_utf8, length_varint_eq length]
  reads_write {value} fits := by
    have length : (Text.utf8 value).length < 2 ^ 64 := by
      rw [Text.length_utf8]
      exact Nat.lt_of_le_of_lt (Nat.le_add_left _ _) fits
    exact reads_text (isVarint_varint length)

end Scalar
end RemoteWrite.Wire
