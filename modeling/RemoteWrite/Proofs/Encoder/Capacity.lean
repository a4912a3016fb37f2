import RemoteWrite.Proofs.Encoder.Capabilities

/-!
Contract: the room that messages need in the buffer of an encoder.

An encoder makes room for one length after the other. Its capacity stays as it
is where there is room already, and otherwise at least doubles, so there always
is room for the longest of all messages so far. A buffer has a largest capacity,
and a message that needs more has no outcome.

Owns:
- lengths that no room can be made for, and the messages that need it;
- the capacity after a message, and after one message after the other.

Does not own: what is written into the room.
-/

namespace RemoteWrite

/-! ## Buffers -/

namespace Buffer

theorem reserveAll_of_le {lengths : List Nat} {capacity : Nat}
    (fits : ∀ needed ∈ lengths, needed ≤ capacity) : reserveAll lengths capacity = capacity := by
  induction lengths with
  | nil => rfl
  | cons needed lengths inductionHypothesis =>
      rw [reserveAll_cons, reserve, if_pos (fits needed List.mem_cons_self)]
      exact inductionHypothesis fun other member => fits other (List.mem_cons_of_mem _ member)

/-- Room was made for some of the lengths, and cannot be made for the next one.
There is too little, and what is needed, or twice what there is, would be more
than there can be. -/
inductive Overflows : List Nat → Nat → Prop where
  | here {needed capacity : Nat} {later : List Nat} (lacks : capacity < needed)
      (beyond : maxCapacity < needed ∨ maxCapacity < 2 * capacity) :
      Overflows (needed :: later) capacity
  | later {needed capacity : Nat} {later : List Nat}
      (overflows : Overflows later (reserve needed capacity)) :
      Overflows (needed :: later) capacity

/-- No lengths overflow that are at most half of what there can be. -/
theorem Overflows.exceeds {lengths : List Nat} {capacity : Nat}
    (overflows : Overflows lengths capacity) :
    ∃ needed ∈ lengths, maxCapacity < 2 * needed := by
  induction overflows with
  | here lacks beyond => exact ⟨_, List.mem_cons_self, by omega⟩
  | later overflows inductionHypothesis =>
      obtain ⟨needed, member, exceeds⟩ := inductionHypothesis
      exact ⟨needed, List.mem_cons_of_mem _ member, exceeds⟩

/-- A capacity only grows, so the last one shows whether any was too large. -/
theorem overflows_iff {lengths : List Nat} {capacity : Nat} :
    Overflows lengths capacity ↔ max maxCapacity capacity < reserveAll lengths capacity := by
  constructor
  · intro overflows
    induction overflows with
    | @here needed capacity later lacks beyond =>
        have grown := capacity_le_reserveAll later (reserve needed capacity)
        rw [reserve, if_neg (Nat.not_le_of_lt lacks)] at grown
        rw [reserveAll_cons, reserve, if_neg (Nat.not_le_of_lt lacks)]
        omega
    | @later needed capacity later overflows inductionHypothesis =>
        have grown := capacity_le_reserve needed capacity
        rw [reserveAll_cons]
        omega
  · intro exceeds
    induction lengths generalizing capacity with
    | nil => exact absurd exceeds (Nat.not_lt_of_le (Nat.le_max_right _ _))
    | cons needed lengths inductionHypothesis =>
        by_cases now : max maxCapacity capacity < reserve needed capacity
        · have least : 8 ≤ maxCapacity := by decide
          unfold reserve at now
          split at now
          · omega
          · exact .here (by omega) (by omega)
        · rw [reserveAll_cons] at exceeds
          exact .later (inductionHypothesis (by omega))

/-- Without an overflow no capacity gets too large. -/
theorem reserveAll_le_of_not_overflows {lengths : List Nat} {capacity : Nat}
    (fits : ¬ Overflows lengths capacity) (within : capacity ≤ maxCapacity) :
    reserveAll lengths capacity ≤ maxCapacity := by
  rw [overflows_iff] at fits
  omega

end Buffer

namespace Encoder

variable (encoder : Encoder) (message : WriteMessage)

/-! ## Messages -/

/-- The message needs more room than the buffer of the encoder can get. -/
def Overflows : Prop :=
  Buffer.Overflows message.lengths encoder.capacity

theorem overflows_iff : encoder.overflows message = true ↔ encoder.Overflows message := by
  rw [overflows, decide_eq_true_iff]
  exact Buffer.overflows_iff.symm

/-- A message has an outcome unless it overflows. -/
theorem encode?_cases :
    (encoder.Overflows message ∧ encoder.encode? message = none) ∨
      ¬ encoder.Overflows message ∧ encoder.encode? message = some (encoder.encode message) :=
  Buffer.outcome_cases (encoder.overflows_iff message) _

theorem capacity_encode :
    (encoder.encode message).encoder.capacity =
      Buffer.reserveAll message.lengths encoder.capacity := by
  obtain ⟨yields, needs⟩ := encoder.encode_eq message
  rw [yields, needs]
  rcases message.capabilities.head? with _ | marshal | encoding
  · rfl
  · rfl
  · rfl

/-- The next state of the encoder has no less room, enough for the message, and
just as much if that was enough. -/
structure MakesRoom (next : Encoder) : Prop where
  kept : encoder.capacity ≤ next.capacity
  enough : ∀ needed ∈ message.lengths, needed ≤ next.capacity
  unchanged : (∀ needed ∈ message.lengths, needed ≤ encoder.capacity) →
    next.capacity = encoder.capacity

theorem makesRoom_encode : encoder.MakesRoom message (encoder.encode message).encoder where
  kept := by
    rw [capacity_encode]
    exact Buffer.capacity_le_reserveAll _ _
  enough needed member := by
    rw [capacity_encode]
    exact Buffer.le_reserveAll member _
  unchanged fits := by
    rw [capacity_encode]
    exact Buffer.reserveAll_of_le fits

/-! ## Histories -/

/-- The encoder after a number of messages, one after the other, if there was a
buffer for each of them. -/
def after? (encoder : Encoder) : List WriteMessage → Option Encoder
  | [] => some encoder
  | message :: history =>
    (encoder.encode? message).bind fun encoded => encoded.encoder.after? history

variable {encoder} {history : List WriteMessage}

/-- After any history there is room for the longest of its messages, and never
more than there can be. -/
theorem capacity_after? {last : Encoder} (runs : encoder.after? history = some last) :
    encoder.capacity ≤ last.capacity ∧
      (encoder.capacity ≤ Buffer.maxCapacity → last.capacity ≤ Buffer.maxCapacity) ∧
      ∀ message ∈ history, ∀ needed ∈ message.lengths, needed ≤ last.capacity := by
  induction history generalizing encoder with
  | nil =>
      cases runs
      exact ⟨Nat.le_refl _, id, List.forall_mem_nil _⟩
  | cons message history inductionHypothesis =>
      rw [after?] at runs
      rcases encoder.encode?_cases message with ⟨_, nothing⟩ | ⟨fits, encodes⟩
      · rw [nothing] at runs
        cases runs
      rw [encodes, Option.bind_some] at runs
      obtain ⟨grows, within, room⟩ := inductionHypothesis runs
      have made := encoder.makesRoom_encode message
      refine ⟨Nat.le_trans made.kept grows, fun bound => within ?_, ?_⟩
      · rw [capacity_encode]
        exact Buffer.reserveAll_le_of_not_overflows fits bound
      · rw [List.forall_mem_cons]
        exact ⟨fun needed member => Nat.le_trans (made.enough needed member) grows, room⟩

/-- A history that comes to no end has a first message that overflows. -/
theorem overflows_of_after?_eq_none (stops : encoder.after? history = none) :
    ∃ earlier message later reached, history = earlier ++ message :: later ∧
      encoder.after? earlier = some reached ∧ reached.Overflows message := by
  induction history generalizing encoder with
  | nil => cases stops
  | cons message history inductionHypothesis =>
      rw [after?] at stops
      rcases encoder.encode?_cases message with ⟨overflows, _⟩ | ⟨_, encodes⟩
      · exact ⟨[], message, history, encoder, rfl, rfl, overflows⟩
      rw [encodes, Option.bind_some] at stops
      obtain ⟨earlier, next, later, reached, split, runs, overflows⟩ := inductionHypothesis stops
      refine ⟨message :: earlier, next, later, reached, ?_, ?_, overflows⟩
      · rw [split, List.cons_append]
      · rw [after?, encodes, Option.bind_some, runs]

end Encoder
end RemoteWrite
