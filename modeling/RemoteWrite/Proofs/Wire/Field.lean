import Mathlib.Algebra.Order.BigOperators.Group.List
import Mathlib.Algebra.Order.Group.Nat
import RemoteWrite.Proofs.Wire.Scalar
import RemoteWrite.Wire.Field

/-!
Contract: what the forms of fields write is merged back, record by record.

Owns:
- the records of a field form;
- the law of a field form, up to what its writing leaves out;
- its proof for plain, packed, and repeated fields, and for alternatives.

Does not own: fields that hold messages, or records in other forms.
-/

namespace RemoteWrite.Wire

universe u

/-! ## Records -/

theorem reads_key_ne_nil {bytes : Bytes} {key : Key} (reads : Reads Key.read bytes key) :
    bytes ≠ [] := by
  rintro rfl
  have nothing := reads []
  contradiction

namespace FieldForm

variable {α : Type}

/-- A record of the field, its key first, is merged into the value so far. -/
def Merges (form : FieldForm α) (budget : Nat) (value : α) (bytes : Bytes) (merged : α) : Prop :=
  ∃ key keyBytes payload, bytes = keyBytes ++ payload ∧ key.number ∈ form.numbers ∧
    Reads Key.read keyBytes key ∧ Reads (form.merge budget key value) payload merged

/-- The law of a field form whose messages nest at most `depth` deep. Writing
a value and reading it back yields the canonical one, which is written the
same. -/
structure Faithful (form : FieldForm α) (depth : Nat) (canonical : α → α) : Prop where
  length_write : ∀ {value}, form.size value < 2 ^ 64 →
    (form.write value).length = form.size value
  chain_write : ∀ {budget value}, depth ≤ budget → form.size value < 2 ^ 64 →
    Chain (form.Merges budget) form.default (form.write value) (canonical value)
  write_canonical : ∀ value, form.write (canonical value) = form.write value
  size_canonical : ∀ value, form.size (canonical value) = form.size value

/-- More nesting is allowed than there is. -/
theorem Faithful.mono {form : FieldForm α} {depth deeper : Nat} {canonical : α → α}
    (faithful : form.Faithful depth canonical) (le : depth ≤ deeper) :
    form.Faithful deeper canonical :=
  { faithful with chain_write := fun enough => faithful.chain_write (Nat.le_trans le enough) }

end FieldForm

/-! ## Records of scalars -/

namespace Scalar

variable {α : Type} {scalar : Scalar α}

theorem reads_readAs {bytes : Bytes} {value : α} (reads : Reads scalar.read bytes value) :
    Reads (scalar.readAs scalar.wireType) bytes value := by
  intro rest
  simp only [readAs, ↓reduceIte, reads rest]

theorem chain_collect (lawful : scalar.Lawful) {values : List α}
    (fits : ∀ value ∈ values, scalar.size value < 2 ^ 64) :
    Chain (Steps scalar.collect) [] (values.flatMap scalar.write) values.reverse := by
  refine Chain.flatMap scalar.write List.reverse values ?_ []
  intro before value member
  refine ⟨lawful.write_ne_nil value, fun rest => ?_⟩
  simp only [collect, lawful.reads_write (fits value member) rest, List.reverse_append,
    List.reverse_singleton, List.singleton_append]

theorem length_writeRecord (lawful : scalar.Lawful) {number : Nat} (known : Key.IsNumber number)
    {value : α} (fits : scalar.recordSize number value < 2 ^ 64) :
    (scalar.writeRecord number value).length = scalar.recordSize number value := by
  rw [recordSize] at fits
  rw [writeRecord, recordSize, List.length_append, Key.length_write known,
    lawful.length_write (by omega)]

end Scalar

theorem size_lt_of_mem {α : Type u} {size : α → Nat} {values : List α} {bound : Nat}
    (total : (values.map size).sum < bound) {value : α} (member : value ∈ values) :
    size value < bound :=
  Nat.lt_of_le_of_lt (List.le_sum_of_mem (List.mem_map_of_mem member)) total

theorem length_flatMap_write {α : Type u} {write : α → Bytes} {size : α → Nat} {values : List α}
    (exact : ∀ value ∈ values, (write value).length = size value) :
    (values.flatMap write).length = (values.map size).sum := by
  rw [List.length_flatMap]
  exact congrArg List.sum (List.map_congr_left exact)

namespace FieldForm

variable {α β γ : Type}

/-- A record of one scalar, for forms that read it by its scalar encoding. -/
theorem merges_record {form : FieldForm α} {scalar : Scalar β} (lawful : scalar.Lawful)
    {number budget : Nat} (known : Key.IsNumber number) (own : number ∈ form.numbers)
    {before after : α} {value : β} (fits : scalar.size value < 2 ^ 64)
    (merges : Reads (scalar.readAs scalar.wireType) (scalar.write value) value →
      Reads (form.merge budget ⟨number, scalar.wireType⟩ before) (scalar.write value) after) :
    form.Merges budget before (scalar.writeRecord number value) after :=
  ⟨⟨number, scalar.wireType⟩, _, _, rfl, own, Key.reads_write known,
    merges (Scalar.reads_readAs (lawful.reads_write fits))⟩

/-! ## The forms -/

/-- A plain field loses the values that are omitted. -/
theorem plain_faithful {scalar : Scalar α} (lawful : scalar.Lawful) {number : Nat}
    (known : Key.IsNumber number) {default : α} {omitted : α → Bool}
    (defaultOmitted : omitted default = true) :
    (plain scalar number default omitted).Faithful 0
      fun value => if omitted value then default else value where
  length_write {value} fits := by
    simp only [plain] at fits ⊢
    split at fits
    · simp only [*, ↓reduceIte, List.length_nil]
    · simp only [*]
      exact Scalar.length_writeRecord lawful known fits
  chain_write {budget value} _ fits := by
    simp only [plain] at fits ⊢
    split at fits
    · simp only [*, ↓reduceIte]
      exact .done default
    · simp only [*]
      rw [Scalar.recordSize] at fits
      exact .single (merges_record lawful known (List.mem_singleton_self number) (by omega) id)
  write_canonical value := by
    by_cases left : omitted value
    · simp only [plain, left, defaultOmitted, ↓reduceIte]
    · simp only [left, ↓reduceIte, Bool.false_eq_true]
  size_canonical value := by
    by_cases left : omitted value
    · simp only [plain, left, defaultOmitted, ↓reduceIte]
    · simp only [left, ↓reduceIte, Bool.false_eq_true]

/-- A plain field that omits only its default loses nothing. -/
theorem plain_faithful_id {scalar : Scalar α} (lawful : scalar.Lawful) {number : Nat}
    (known : Key.IsNumber number) {default : α} {omitted : α → Bool}
    (defaultOmitted : omitted default = true)
    (onlyDefault : ∀ value, omitted value = true → value = default) :
    (plain scalar number default omitted).Faithful 0 id := by
  have faithful := plain_faithful lawful known defaultOmitted
  have keeps : (fun value => if omitted value then default else value) = id := by
    funext value
    by_cases left : omitted value
    · rw [if_pos left, onlyDefault value left]
      rfl
    · rw [if_neg left]
      rfl
  rwa [keeps] at faithful

theorem packed_faithful {scalar : Scalar α} (lawful : scalar.Lawful) {number : Nat}
    (known : Key.IsNumber number) : (packed scalar number).Faithful 0 id where
  length_write {values} fits := by
    simp only [packed] at fits ⊢
    split at fits
    · simp only [*, ↓reduceIte, List.length_nil]
    · have payload : (values.flatMap scalar.write).length = (values.map scalar.size).sum :=
        length_flatMap_write fun value member =>
          lawful.length_write (size_lt_of_mem (by omega) member)
      simp only [*, ↓reduceIte, List.length_append, Bool.false_eq_true]
      rw [Key.length_write known, length_varint_eq (by omega)]
  chain_write {budget values} _ fits := by
    simp only [packed] at fits ⊢
    split at fits
    · have empty : values = [] := List.isEmpty_iff.mp ‹_›
      subst empty
      exact .done []
    · have each : ∀ value ∈ values, scalar.size value < 2 ^ 64 := fun value member =>
        size_lt_of_mem (by omega) member
      have payload : (values.flatMap scalar.write).length = (values.map scalar.size).sum :=
        length_flatMap_write fun value member => lawful.length_write (each value member)
      have announced : (values.flatMap scalar.write).length < 2 ^ 64 := by omega
      simp only [*, ↓reduceIte, Bool.false_eq_true]
      refine .single ⟨⟨number, .lengthDelimited⟩, _, _, List.append_assoc _ _ _,
        List.mem_singleton_self number, Key.reads_write known, ?_⟩
      have delimited := reads_delimited (reads_varint announced)
        (by rw [UInt64.toNat_ofNat', Nat.mod_eq_of_lt announced]) (Scalar.chain_collect lawful each)
      intro rest
      simp only [↓reduceIte, ← payload, delimited rest, List.nil_append, List.reverse_reverse,
        id_eq]
  write_canonical _ := rfl
  size_canonical _ := rfl

/-- Every value is appended by a record of its own. -/
theorem merges_repeated {scalar : Scalar α} (lawful : scalar.Lawful) {number : Nat}
    (known : Key.IsNumber number) {budget : Nat} (before : List α) {value : α}
    (fits : scalar.recordSize number value < 2 ^ 64) :
    (repeated scalar number).Merges budget before (scalar.writeRecord number value)
      (before ++ [value]) := by
  rw [Scalar.recordSize] at fits
  refine merges_record lawful known (List.mem_singleton_self number) (by omega) ?_
  intro reads rest
  simp only [repeated, reads rest]

theorem run_repeated {scalar : Scalar α} (lawful : scalar.Lawful) {number : Nat}
    (known : Key.IsNumber number) {budget : Nat} {values : List α}
    (fits : (values.map (scalar.recordSize number)).sum < 2 ^ 64) :
    Run ((repeated scalar number).Merges budget) [] (values.map (scalar.writeRecord number))
      values :=
  Run.ofValues (scalar.writeRecord number) id values (fun before _ member =>
    merges_repeated lawful known before (size_lt_of_mem fits member)) []

theorem repeated_faithful {scalar : Scalar α} (lawful : scalar.Lawful) {number : Nat}
    (known : Key.IsNumber number) : (repeated scalar number).Faithful 0 id where
  length_write fits :=
    length_flatMap_write fun _ member =>
      Scalar.length_writeRecord lawful known (size_lt_of_mem fits member)
  chain_write _ fits := Chain.ofRun (run_repeated lawful known fits)
  write_canonical _ := rfl
  size_canonical _ := rfl

/-- One of two alternatives is written even if it is zero. -/
theorem oneOf_faithful {first : Scalar α} {second : Scalar β} (firstLawful : first.Lawful)
    (secondLawful : second.Lawful) {firstNumber secondNumber : Nat}
    (firstKnown : Key.IsNumber firstNumber) (secondKnown : Key.IsNumber secondNumber)
    (different : secondNumber ≠ firstNumber) {ofEither : Either α β → γ}
    {toEither : γ → Either α β} (inverse : ∀ value, ofEither (toEither value) = value) :
    (oneOf first firstNumber second secondNumber ofEither toEither).Faithful 0 id where
  length_write {value} fits := by
    cases value with
    | none => rfl
    | some value =>
        simp only [oneOf] at fits ⊢
        cases choice : toEither value <;> rw [choice] at fits
        · exact Scalar.length_writeRecord firstLawful firstKnown fits
        · exact Scalar.length_writeRecord secondLawful secondKnown fits
  chain_write {budget value} _ fits := by
    cases value with
    | none => exact .done none
    | some value =>
        simp only [oneOf] at fits ⊢
        have kept := inverse value
        cases choice : toEither value <;> rw [choice] at fits kept <;>
          simp only [Scalar.recordSize] at fits
        · refine .single (merges_record firstLawful firstKnown List.mem_cons_self (by omega) ?_)
          intro reads rest
          simp only [↓reduceIte, reads rest, kept, id_eq]
        · refine .single (merges_record secondLawful secondKnown
            (List.mem_cons_of_mem _ List.mem_cons_self) (by omega) ?_)
          intro reads rest
          simp only [different, ↓reduceIte, reads rest, kept, id_eq]
  write_canonical _ := rfl
  size_canonical _ := rfl

/-! ## Plain fields by their defaults -/

variable {depth number : Nat}

/-- Numbers are omitted if they are zero. -/
theorem zero_faithful [OfNat α 0] [BEq α] [LawfulBEq α] {scalar : Scalar α}
    (lawful : scalar.Lawful) (known : Key.IsNumber number) :
    (plain scalar number 0 (· == 0)).Faithful depth id := by
  refine (plain_faithful_id lawful known ?_ ?_).mono (Nat.zero_le depth)
  · exact BEq.rfl
  · intro value omitted
    exact eq_of_beq omitted

theorem emptyText_faithful (known : Key.IsNumber number) :
    (plain .text number "" String.isEmpty).Faithful depth id :=
  (plain_faithful_id Scalar.text_lawful known rfl fun _ => String.isEmpty_iff.mp).mono
    (Nat.zero_le depth)

/-- Zeros of both signs are omitted, so the sign of a zero is lost. -/
theorem double_faithful (known : Key.IsNumber number) :
    (plain .double number .zero Binary64.isZero).Faithful depth Binary64.positiveZero :=
  (plain_faithful Scalar.double_lawful known rfl).mono (Nat.zero_le depth)

end FieldForm
end RemoteWrite.Wire
