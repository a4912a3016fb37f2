import RemoteWrite.Proofs.Wire.Reading
import RemoteWrite.Wire.Key

/-!
Contract: varints and keys are read back in every form, and shortest ones are
as long as their computed sizes say.

Owns:
- the length of a shortest varint by the binary logarithm of the number;
- the forms of a number of 64 bits, with superfluous groups or without;
- reading varints and the keys of fields.

Does not own: what numbers stand for.
-/

namespace RemoteWrite.Wire

/-! ## Lengths -/

theorem varint_small {n : Nat} (small : n < 128) : varint n = [UInt8.ofNat n] := by
  rw [varint, if_pos small]

theorem varint_large {n : Nat} (large : ¬ n < 128) :
    varint n = UInt8.ofNat (n % 128 + 128) :: varint (n / 128) := by
  rw [varint, if_neg large]

theorem varint_ne_nil (n : Nat) : varint n ≠ [] := by
  rw [varint]
  split <;> exact List.cons_ne_nil _ _

/-- Seven bits less are a logarithm lower by seven. -/
private theorem log2_div_group {n : Nat} (large : ¬ n < 128) :
    n.log2 = (n / 128).log2 + 7 := by
  have quotient : n / 128 ≠ 0 := by omega
  have low := Nat.log2_self_le quotient
  have high := Nat.lt_log2_self (n := n / 128)
  rw [Nat.log2_eq_iff (by omega)]
  constructor
  · rw [Nat.pow_add]
    omega
  · rw [Nat.add_right_comm, Nat.pow_add]
    omega

theorem length_varint (n : Nat) : (varint n).length = n.log2 / 7 + 1 := by
  induction n using Nat.strongRecOn with
  | ind n inductionHypothesis =>
      by_cases small : n < 128
      · have logarithm : n.log2 < 7 := by
          by_cases zero : n = 0
          · rw [zero]
            decide
          · rw [Nat.log2_lt zero]
            exact small
        rw [varint_small small, Nat.div_eq_of_lt logarithm]
        rfl
      · rw [varint_large small, List.length_cons, inductionHypothesis (n / 128) (by omega),
          log2_div_group small]
        omega

private theorem log2_lt {n : Nat} (bound : n < 2 ^ 64) : n.log2 < 64 := by
  by_cases zero : n = 0
  · rw [zero]
    decide
  · rwa [Nat.log2_lt zero]

theorem length_varint_le {n : Nat} (bound : n < 2 ^ 64) : (varint n).length ≤ 10 := by
  have low := log2_lt bound
  rw [length_varint]
  omega

theorem length_varint_eq {n : Nat} (bound : n < 2 ^ 64) : (varint n).length = varintSize n := by
  have logarithm : (max n 1).log2 = n.log2 := by
    by_cases zero : n = 0
    · rw [zero]
      decide
    · rw [Nat.max_eq_left (Nat.pos_of_ne_zero zero)]
  have low := log2_lt bound
  rw [length_varint, varintSize, logarithm]
  omega

theorem varintSize_pos (n : Nat) : 0 < varintSize n := by
  rw [varintSize]
  omega

/-! ## Groups -/

/-- Groups of seven bits of a number, lowest first, one byte each. All but the last byte have the
high bit set. -/
def IsGroups : Nat → Bytes → Prop
  | _, [] => False
  | n, [byte] => n < 128 ∧ byte.toNat = n
  | n, byte :: next :: rest => byte.toNat = n % 128 + 128 ∧ IsGroups (n / 128) (next :: rest)

instance decidableIsGroups : (n : Nat) → (bytes : Bytes) → Decidable (IsGroups n bytes)
  | _, [] => inferInstanceAs (Decidable False)
  | n, [byte] => inferInstanceAs (Decidable (n < 128 ∧ byte.toNat = n))
  | n, byte :: next :: rest =>
    have := decidableIsGroups (n / 128) (next :: rest)
    inferInstanceAs (Decidable (byte.toNat = n % 128 + 128 ∧ IsGroups (n / 128) (next :: rest)))

/-- A number of 64 bits in at most ten groups. Those behind its highest one are zero. -/
def IsVarint (n : Nat) (bytes : Bytes) : Prop :=
  IsGroups n bytes ∧ bytes.length ≤ 10 ∧ n < 2 ^ 64

instance (n : Nat) (bytes : Bytes) : Decidable (IsVarint n bytes) := by
  unfold IsVarint
  infer_instance

/-- The shortest form is one of the forms. -/
theorem isGroups_varint (n : Nat) : IsGroups n (varint n) := by
  induction n using Nat.strongRecOn with
  | ind n inductionHypothesis =>
      by_cases small : n < 128
      · rw [varint_small small]
        refine ⟨small, ?_⟩
        rw [UInt8.toNat_ofNat']
        omega
      · have byte : (UInt8.ofNat (n % 128 + 128)).toNat = n % 128 + 128 := by
          rw [UInt8.toNat_ofNat']
          omega
        have higher := inductionHypothesis (n / 128) (by omega)
        obtain ⟨next, rest, groups⟩ := List.exists_cons_of_ne_nil (varint_ne_nil (n / 128))
        rw [groups] at higher
        rw [varint_large small, groups]
        exact ⟨byte, higher⟩

theorem isVarint_varint {n : Nat} (bound : n < 2 ^ 64) : IsVarint n (varint n) :=
  ⟨isGroups_varint n, length_varint_le bound, bound⟩

/-! ## Reading -/

theorem reads_isGroups {n groups : Nat} {bytes : Bytes} (isGroups : IsGroups n bytes)
    (enough : bytes.length ≤ groups) : Reads (readGroups groups) bytes n := by
  intro rest
  induction bytes generalizing n groups with
  | nil => exact isGroups.elim
  | cons byte bytes inductionHypothesis =>
      obtain ⟨fewer, rfl⟩ : ∃ fewer, groups = fewer + 1 :=
        Nat.exists_eq_add_one.mpr (Nat.lt_of_lt_of_le (Nat.succ_pos _) enough)
      rw [List.cons_append, readGroups, Input.next?_cons]
      cases bytes with
      | nil =>
          obtain ⟨small, value⟩ := isGroups
          have ends : byte < 0x80 := by
            rw [UInt8.lt_iff_toNat_lt, value]
            exact small
          simp only [ends, ↓reduceIte, value, List.nil_append]
      | cons next others =>
          obtain ⟨value, higher⟩ := isGroups
          have goesOn : ¬ byte < 0x80 := by
            rw [UInt8.lt_iff_toNat_lt, value]
            simp
          have read := inductionHypothesis higher (Nat.le_of_succ_le_succ enough)
          simp only [goesOn, ↓reduceIte, read, value]
          congr 2
          omega

namespace IsVarint

variable {n : Nat} {bytes : Bytes}

theorem reads (isVarint : IsVarint n bytes) : Reads readVarint bytes (UInt64.ofNat n) := by
  obtain ⟨isGroups, length, bound⟩ := isVarint
  intro rest
  rw [readVarint, reads_isGroups isGroups length rest]
  simp only [bound, ↓reduceIte]

theorem toNat (isVarint : IsVarint n bytes) : (UInt64.ofNat n).toNat = n := by
  rw [UInt64.toNat_ofNat', Nat.mod_eq_of_lt isVarint.2.2]

theorem ne_nil (isVarint : IsVarint n bytes) : bytes ≠ [] := by
  rintro rfl
  exact isVarint.1

end IsVarint

theorem reads_varint {n : Nat} (bound : n < 2 ^ 64) :
    Reads readVarint (varint n) (UInt64.ofNat n) :=
  (isVarint_varint bound).reads

/-! ## Keys -/

namespace Key

/-- The numbers that a field can have. -/
def IsNumber (number : Nat) : Prop := 0 < number ∧ number < 2 ^ 29

instance (number : Nat) : Decidable (IsNumber number) := by
  unfold IsNumber
  infer_instance

theorem write_ne_nil (key : Key) : key.write ≠ [] :=
  varint_ne_nil key.value

theorem value_lt {key : Key} (number : IsNumber key.number) : key.value < 2 ^ 32 := by
  have code : key.wireType.code ≤ 5 := by
    cases key.wireType <;> decide
  have below := number.2
  rw [value]
  omega

theorem length_write {key : Key} (number : IsNumber key.number) :
    key.write.length = key.size :=
  length_varint_eq (Nat.lt_trans (value_lt number) (by decide))

/-- A key is read in whatever form its value is written. -/
theorem reads_isVarint {key : Key} (isNumber : IsNumber key.number) {bytes : Bytes}
    (isKey : IsVarint key.value bytes) : Reads Key.read bytes key := by
  intro rest
  obtain ⟨number, wireType⟩ := key
  have below := value_lt isNumber
  have read : (UInt64.ofNat (Key.value ⟨number, wireType⟩)).toNat = number * 8 + wireType.code :=
    isKey.toNat
  have small : ¬ 2 ^ 32 ≤ number * 8 + wireType.code := Nat.not_le.mpr below
  have code : wireType.code < 8 := by
    cases wireType <;> decide
  have low : (number * 8 + wireType.code) % 8 = wireType.code := by omega
  have high : (number * 8 + wireType.code) / 8 = number := by omega
  have known : WireType.ofCode? wireType.code = some wireType := by
    cases wireType <;> rfl
  have nonzero : ¬ number = 0 := Nat.ne_of_gt isNumber.1
  rw [Key.read, isKey.reads rest]
  simp only [read, small, ↓reduceIte, low, known, high, nonzero]

theorem reads_write {key : Key} (isNumber : IsNumber key.number) : Reads Key.read key.write key :=
  reads_isVarint isNumber (isVarint_varint (Nat.lt_trans (value_lt isNumber) (by decide)))

end Key
end RemoteWrite.Wire
