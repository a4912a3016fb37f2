import Mathlib.Data.List.Forall2
import RemoteWrite.Wire.Varint

/-!
Contract: what it means that bytes are read as a value.

Bytes are read as a value if a reader that finds them in front of any others
yields the value and leaves the others. Repeated steps read bytes record by
record, so that what they do with a concatenation follows from what they do
with its parts.

Owns:
- inputs in front of other bytes;
- reading bytes as a value, and chains of records;
- repetition and delimited contents along a chain.

Does not own: any particular encoding.
-/

namespace RemoteWrite.Wire

/-! ## Inputs -/

namespace Input

@[simp] theorem ofBytes_bytes (bytes : Bytes) : (ofBytes bytes).bytes = bytes := rfl

@[simp] theorem ofBytes_size (bytes : Bytes) : (ofBytes bytes).size = bytes.length := rfl

theorem eq_of_bytes {left right : Input} (same : left.bytes = right.bytes) : left = right := by
  obtain ⟨bytes, size, size_eq⟩ := left
  obtain ⟨others, count, count_eq⟩ := right
  subst size_eq count_eq
  simp only at same
  subst same
  rfl

theorem next?_cons (byte : UInt8) (rest : Bytes) :
    (ofBytes (byte :: rest)).next? = some (byte, ofBytes rest) := rfl

theorem drop_append (front rest : Bytes) :
    (ofBytes (front ++ rest)).drop front.length = ofBytes rest := by
  apply eq_of_bytes
  simp [drop]

theorem take_append (front rest : Bytes) :
    (ofBytes (front ++ rest)).take front.length = .ok (front, ofBytes rest) := by
  have fits : front.length ≤ (ofBytes (front ++ rest)).size := by simp
  rw [take, if_pos fits, drop_append]
  simp

end Input

/-! ## Reading -/

/-- Some bytes, in front of any others, are read as a value. -/
def Reads {ε α : Type} (read : Input → Except ε (α × Input)) (bytes : Bytes) (value : α) : Prop :=
  ∀ rest, read (.ofBytes (bytes ++ rest)) = .ok (value, .ofBytes rest)

/-! ## Runs and chains -/

/-- States that follow one another, with an item of a list between each two of them. -/
inductive Run {σ ρ : Type} (merge : σ → ρ → σ → Prop) : σ → List ρ → σ → Prop where
  | done (state : σ) : Run merge state [] state
  | next {state middle final : σ} {item : ρ} {items : List ρ} (first : merge state item middle)
      (others : Run merge middle items final) : Run merge state (item :: items) final

namespace Run

variable {σ τ ρ : Type} {merge : σ → ρ → σ → Prop}

theorem eq_of_nil {state final : σ} (run : Run merge state [] final) : state = final := by
  cases run
  rfl

theorem of_cons {state final : σ} {item : ρ} {items : List ρ}
    (run : Run merge state (item :: items) final) :
    ∃ middle, merge state item middle ∧ Run merge middle items final := by
  cases run with
  | next first others => exact ⟨_, first, others⟩

theorem append {state middle final : σ} {front items : List ρ}
    (first : Run merge state front middle) (second : Run merge middle items final) :
    Run merge state (front ++ items) final := by
  induction first with
  | done => exact second
  | next item _ inductionHypothesis => exact .next item (inductionHypothesis second)

/-- A run over items is one of their images if every step is. -/
theorem map {other : τ → ρ → τ → Prop} (image : σ → τ)
    (keeps : ∀ {state item final}, merge state item final →
      other (image state) item (image final))
    {state final : σ} {items : List ρ} (run : Run merge state items final) :
    Run other (image state) items (image final) := by
  induction run with
  | done state => exact .done (image state)
  | next first _ inductionHypothesis => exact .next (keeps first) inductionHypothesis

/-- The values of a list, each given by an item. The states are images of the values so far. -/
theorem ofForall₂ {α : Type} {given : α → ρ → Prop} (image : List α → σ) {values : List α}
    {items : List ρ} (matched : List.Forall₂ given values items)
    (appends : ∀ before value item, given value item →
      merge (image before) item (image (before ++ [value])))
    (before : List α) : Run merge (image before) items (image (before ++ values)) := by
  induction matched generalizing before with
  | nil =>
      rw [List.append_nil]
      exact .done (image before)
  | @cons value item _ _ first _ inductionHypothesis =>
      have others := inductionHypothesis (before ++ [value])
      rw [List.append_assoc, List.singleton_append] at others
      exact .next (appends before value item first) others

/-- The values of a list, each written as an item. -/
theorem ofValues {α : Type} (write : α → ρ) (image : List α → σ) (values : List α)
    (appends : ∀ before, ∀ value ∈ values,
      merge (image before) (write value) (image (before ++ [value])))
    (before : List α) : Run merge (image before) (values.map write) (image (before ++ values)) := by
  have written : List.Forall₂ (fun value item => value ∈ values ∧ item = write value) values
      (values.map write) :=
    List.forall₂_map_right_iff.mpr (List.forall₂_same.mpr fun _ member => ⟨member, rfl⟩)
  refine ofForall₂ image written ?_ before
  rintro before value _ ⟨member, rfl⟩
  exact appends before value member

end Run

/-- States that follow one another, with a record between each two of them;
the bytes are those of all records. -/
inductive Chain {σ : Type} (record : σ → Bytes → σ → Prop) : σ → Bytes → σ → Prop where
  | done (state : σ) : Chain record state [] state
  | next {state middle final : σ} {front bytes : Bytes} (first : record state front middle)
      (others : Chain record middle bytes final) : Chain record state (front ++ bytes) final

namespace Chain

variable {σ τ : Type} {record : σ → Bytes → σ → Prop}

theorem single {state final : σ} {bytes : Bytes} (only : record state bytes final) :
    Chain record state bytes final := by
  have chain := Chain.next only (.done final)
  rwa [List.append_nil] at chain

theorem append {state middle final : σ} {front bytes : Bytes}
    (first : Chain record state front middle) (second : Chain record middle bytes final) :
    Chain record state (front ++ bytes) final := by
  induction first with
  | done => exact second
  | next record _ inductionHypothesis =>
      rw [List.append_assoc]
      exact .next record (inductionHypothesis second)

/-- A chain of states is one of their images if every record is. -/
theorem map {other : τ → Bytes → τ → Prop} (image : σ → τ)
    (keeps : ∀ {state bytes final}, record state bytes final →
      other (image state) bytes (image final))
    {state final : σ} {bytes : Bytes} (chain : Chain record state bytes final) :
    Chain other (image state) bytes (image final) := by
  induction chain with
  | done state => exact .done (image state)
  | next first _ inductionHypothesis => exact .next (keeps first) inductionHypothesis

/-- The records of a run as a whole. -/
theorem ofRun {state final : σ} {records : List Bytes} (run : Run record state records final) :
    Chain record state records.flatten final := by
  induction run with
  | done state => exact .done state
  | next first _ inductionHypothesis => exact .next first inductionHypothesis

/-- The values of a list, each in a record of its own. The states are images of
the values so far. -/
theorem flatMap {α : Type} (write : α → Bytes) (image : List α → σ) (values : List α)
    (appends : ∀ before, ∀ value ∈ values,
      record (image before) (write value) (image (before ++ [value])))
    (before : List α) :
    Chain record (image before) (values.flatMap write) (image (before ++ values)) :=
  ofRun (Run.ofValues write image values appends before)

end Chain

/-! ## Repetition -/

section Repetition

variable {ε σ : Type} {step : σ → Input → Except ε (σ × Input)}

/-- A step reads some bytes, at least one, between two states. -/
def Steps (step : σ → Input → Except ε (σ × Input)) (state : σ) (bytes : Bytes) (final : σ) :
    Prop :=
  bytes ≠ [] ∧ Reads (step state) bytes final

/-- Repetition gets through the bytes of a chain as long as it has to stop
only behind them. -/
theorem repeatUntil_chain {state final : σ} {bytes : Bytes}
    (chain : Chain (Steps step) state bytes final) (rest : Bytes) {stop : Nat}
    (behind : stop ≤ rest.length) :
    (Input.ofBytes (bytes ++ rest)).repeatUntil stop step state =
      (Input.ofBytes rest).repeatUntil stop step final := by
  induction chain with
  | done => rfl
  | @next state middle final front bytes first _ inductionHypothesis =>
      have frontLength : 0 < front.length := List.length_pos_iff.mpr first.1
      have size : (Input.ofBytes (front ++ bytes ++ rest)).size =
          front.length + (bytes ++ rest).length := by
        simp only [Input.ofBytes_size, List.length_append]
        omega
      have goesOn : ¬ (Input.ofBytes (front ++ bytes ++ rest)).size ≤ stop := by
        simp only [size, List.length_append]
        omega
      have shorter : (Input.ofBytes (bytes ++ rest)).size <
          (Input.ofBytes (front ++ bytes ++ rest)).size := by
        rw [size, Input.ofBytes_size]
        omega
      have reads := first.2 (bytes ++ rest)
      rw [← List.append_assoc] at reads
      -- The check for progress passes, as every record has a byte.
      rw [Input.repeatUntil, if_neg goesOn, reads]
      simp only [shorter, ↓reduceIte, inductionHypothesis]

/-- Repetition ends right behind the bytes of a chain. -/
theorem repeatUntil_chain_exact {state final : σ} {bytes : Bytes}
    (chain : Chain (Steps step) state bytes final) (rest : Bytes) :
    (Input.ofBytes (bytes ++ rest)).repeatUntil rest.length step state =
      .ok (final, .ofBytes rest) := by
  rw [repeatUntil_chain chain rest (Nat.le_refl _), Input.repeatUntil,
    if_pos (Nat.le_of_eq (Input.ofBytes_size rest))]

end Repetition

/-- The contents that a length announces are read along a chain. -/
theorem reads_delimited {σ : Type} {step : σ → Input → Except DecodeError (σ × Input)}
    {state final : σ} {lengthBytes bytes : Bytes} {length : UInt64}
    (announced : Reads readVarint lengthBytes length) (exact : length.toNat = bytes.length)
    (chain : Chain (Steps step) state bytes final) :
    Reads (readDelimited step state) (lengthBytes ++ bytes) final := by
  intro rest
  have stop : (bytes ++ rest).length - length.toNat = rest.length := by
    rw [exact, List.length_append, Nat.add_sub_cancel_left]
  have fits : ¬ (bytes ++ rest).length < length.toNat := by
    rw [exact, List.length_append]
    omega
  rw [List.append_assoc, readDelimited, announced (bytes ++ rest)]
  simp only [Input.ofBytes_size, fits, ↓reduceIte, stop, repeatUntil_chain_exact chain rest]

end RemoteWrite.Wire
