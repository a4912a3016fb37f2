import RemoteWrite.Natural
import RemoteWrite.Text.Utf8

/-!
Contract: byte buffers that are kept from one use to the next.

A buffer grows with zeros and never shrinks. What a use does not overwrite is
still there in the next one. There is more room in a buffer than it takes up:
one that has to grow gets at least twice as large, and one that is emptied
keeps its room.

Owns:
- growing a buffer, writing over its front, and writing over no more than it
  holds;
- the capacity of a buffer that room is made in;
- the largest capacity that there can be.

Does not own: who keeps a buffer, or what a use may read of it.
-/

namespace RemoteWrite.Buffer

/-- The buffer with zeros appended up to a size. -/
def grow (size : Nat) (buffer : Bytes) : Bytes :=
  buffer ++ List.replicate (size - buffer.length) 0

/-- The buffer with its first bytes replaced. -/
def overwrite (front buffer : Bytes) : Bytes :=
  front ++ buffer.drop front.length

def fill (bytes buffer : Bytes) : Bytes :=
  overwrite (bytes.take buffer.length) buffer

theorem length_grow (size : Nat) (buffer : Bytes) :
    (grow size buffer).length = max buffer.length size := by
  rw [grow, List.length_append, List.length_replicate]
  omega

theorem length_take_grow (size : Nat) (buffer : Bytes) :
    ((grow size buffer).take size).length = size := by
  rw [List.length_take, length_grow]
  exact Nat.min_eq_left (Nat.le_max_right _ _)

/-- Writing over the front of a buffer that is long enough keeps its length. -/
theorem length_overwrite {front buffer : Bytes} (fits : front.length ≤ buffer.length) :
    (overwrite front buffer).length = buffer.length := by
  rw [overwrite, List.length_append, List.length_drop, Nat.add_sub_cancel' fits]

theorem length_fill (bytes buffer : Bytes) : (fill bytes buffer).length = buffer.length :=
  length_overwrite (List.length_take_le _ _)

/-! ## Capacities -/

/-- The largest number of bytes that there can be a buffer for. -/
def maxCapacity : Nat := 2 ^ 63 - 1

/-- How a program ends that needs a larger one. -/
def overflowMessage : String := "capacity overflow"

/-- The capacity once there is room for a number of bytes. Where there is not,
it at least doubles. -/
def reserve (needed capacity : Nat) : Nat :=
  if needed ≤ capacity then capacity else max needed (max (2 * capacity) 8)

/-- The capacity once room was made for one number of bytes after the other. -/
def reserveAll (lengths : List Nat) (capacity : Nat) : Nat :=
  lengths.foldl (fun capacity needed => reserve needed capacity) capacity

theorem le_reserve (needed capacity : Nat) : needed ≤ reserve needed capacity := by
  unfold reserve
  split <;> omega

theorem capacity_le_reserve (needed capacity : Nat) : capacity ≤ reserve needed capacity := by
  unfold reserve
  split <;> omega

theorem reserveAll_cons (needed : Nat) (lengths : List Nat) (capacity : Nat) :
    reserveAll (needed :: lengths) capacity = reserveAll lengths (reserve needed capacity) := rfl

theorem reserveAll_append (lengths others : List Nat) (capacity : Nat) :
    reserveAll (lengths ++ others) capacity = reserveAll others (reserveAll lengths capacity) :=
  List.foldl_append

theorem capacity_le_reserveAll (lengths : List Nat) (capacity : Nat) :
    capacity ≤ reserveAll lengths capacity := by
  induction lengths generalizing capacity with
  | nil => exact Nat.le_refl _
  | cons needed lengths inductionHypothesis =>
      exact Nat.le_trans (capacity_le_reserve needed capacity) (inductionHypothesis _)

theorem le_reserveAll {lengths : List Nat} {needed : Nat} (member : needed ∈ lengths)
    (capacity : Nat) : needed ≤ reserveAll lengths capacity := by
  obtain ⟨earlier, later, rfl⟩ := List.append_of_mem member
  rw [reserveAll_append, reserveAll_cons]
  exact Nat.le_trans (le_reserve _ _) (capacity_le_reserveAll _ _)

/-- What has no outcome where a buffer overflows has one everywhere else. -/
theorem outcome_cases {α : Type} {overflows : Bool} {Overflows : Prop}
    (exactly : overflows = true ↔ Overflows) (outcome : α) :
    (Overflows ∧ (if overflows then none else some outcome) = none) ∨
      ¬ Overflows ∧ (if overflows then none else some outcome) = some outcome := by
  by_cases large : overflows = true
  · exact .inl ⟨exactly.mp large, if_pos large⟩
  · exact .inr ⟨large ∘ exactly.mpr, if_neg large⟩

end RemoteWrite.Buffer
