import RemoteWrite.Proofs.Client.Attempt
import RemoteWrite.Proofs.Client.Course
import RemoteWrite.Proofs.Client.Write
import RemoteWrite.Simulation.ScriptedServer

/-!
Contract: no report of a receiver is lost.

A write reports the stats of all attempts that completed, whichever way it
ends. Counters add up to their limit; the flag is that of the last attempt.

Owns:
- the attempts that completed, and their replies;
- the acceptance of stats, and the stats of every ending.

Does not own: how many attempts there are, or where evidence comes from.
-/

namespace RemoteWrite

/-- The stats that an ending hands to the caller, which is nothing where the
writer stops. -/
def Ending.stats? : Ending → Option WriteStats
  | .accepted stats => some stats
  | .failed failure => some failure.stats
  | .delayOverflow => none

namespace Sender

variable {σ : Type} (sender : Sender σ) (start : σ)

/-- How many of the attempts that were made completed: all but the one that
was cancelled on its way. -/
def completed (made : Nat) : Nat :=
  match sender.cancel with
  | some (.duringAttempt index) => min made index
  | _ => made

theorem completed_le (made : Nat) : sender.completed made ≤ made := by
  rw [completed]
  split
  next => exact Nat.min_le_left _ _
  next => exact Nat.le_refl _

/-- Where one attempt was made, no other one completed. -/
theorem eq_of_lt_completed {index last : Nat} (reached : index ≤ last)
    (completes : last < sender.completed (index + 1)) : last = index :=
  Nat.le_antisymm
    (Nat.le_of_lt_succ (Nat.lt_of_lt_of_le completes (sender.completed_le (index + 1)))) reached

/-! ## Totals -/

theorem toNat_read_totalAfter (counter : Counter) (count : Nat) :
    (counter.read (sender.totalAfter start count)).toNat =
      min Counter.limit
        ((List.range count).map fun index => (sender.replyAt start index).counted counter).sum := by
  induction count with
  | zero => rw [totalAfter, Counter.read_empty]; rfl
  | succ count inductionHypothesis =>
      rw [totalAfter, Counter.toNat_read_add counter inductionHypothesis, attemptAt,
        Attempt.toNat_read_ofReply, List.range_succ, List.map_append, List.sum_append,
        List.map_singleton, List.sum_singleton]

theorem confirmed_totalAfter (count : Nat) :
    (sender.totalAfter start count).confirmed =
      (((List.range count).map (sender.replyAt start)).getLast?.map Reply.confirms).getD false := by
  cases count with
  | zero => rfl
  | succ count =>
      rw [totalAfter, List.range_succ, List.map_append, List.map_singleton,
        List.getLast?_append, List.getLast?_singleton]
      exact Attempt.confirmed_ofReply _ _ _

/-! ## Endings -/

variable {sender start}

theorem acceptance_confirmed (payload : Payload) {stats : WriteStats}
    (confirmed : stats.confirmed = true) : acceptance payload stats = .accepted stats := by
  rw [acceptance, Attempt.checkAcceptance, confirmed, Bool.or_true, Bool.true_or, if_pos rfl]

/-- A 2.0 write is accepted on any evidence: the flag, a counter, or a message
that is known to be empty. -/
theorem acceptance_eq (payload : Payload) (stats : WriteStats) :
    acceptance payload stats =
      if payload.protocol ≠ .v2 ∨ stats.confirmed = true ∨ stats.noDataWritten = false ∨
          payload.baseline.any WriteStats.noDataWritten = true then
        .accepted stats
      else .failed ⟨stats, .logicalAcceptance payload.baseline stats⟩ := by
  have evident : (payload.protocol ≠ .v2 ∨ stats.confirmed = true ∨ stats.noDataWritten = false ∨
      payload.baseline.any WriteStats.noDataWritten = true) ↔
        (payload.protocol ≠ .v2 || stats.confirmed || !stats.noDataWritten) = true ∨
          payload.baseline.any WriteStats.noDataWritten = true := by
    simp only [Bool.or_eq_true, decide_eq_true_eq, Bool.not_eq_true', or_assoc]
  rw [acceptance, Attempt.checkAcceptance]
  by_cases reported : (payload.protocol ≠ .v2 || stats.confirmed || !stats.noDataWritten) = true
  · rw [if_pos reported, if_pos (evident.mpr (.inl reported))]
  · rw [if_neg reported]
    by_cases empty : payload.baseline.any WriteStats.noDataWritten = true
    · rw [if_pos empty, if_pos (evident.mpr (.inr empty))]
    · rw [if_neg empty, if_neg (mt evident.mp (not_or.mpr ⟨reported, empty⟩))]

theorem stats_acceptance (payload : Payload) (stats : WriteStats) :
    (acceptance payload stats).stats? = some stats := by
  rw [acceptance_eq]
  split <;> rfl

/-- No attempt before this one is cancelled on its way. -/
def Reaches (sender : Sender σ) (index : Nat) : Prop :=
  ∀ interrupted, sender.cancel = some (.duringAttempt interrupted) → index ≤ interrupted

theorem Reaches.succ {index : Nat} (reaches : sender.Reaches index)
    (completes : sender.cancel ≠ some (.duringAttempt index)) :
    sender.Reaches (index + 1) := by
  intro interrupted cancels
  have later := reaches interrupted cancels
  have other : interrupted ≠ index := by
    rintro rfl
    exact completes cancels
  omega

theorem Reaches.le_completed {count made : Nat} (reaches : sender.Reaches count)
    (within : count ≤ made) : count ≤ sender.completed made := by
  rw [completed]
  split
  next interrupted cancels => exact Nat.le_min.mpr ⟨within, reaches interrupted cancels⟩
  next => exact within

theorem Reaches.completed_eq {made : Nat} (reaches : sender.Reaches made) :
    sender.completed made = made :=
  Nat.le_antisymm (sender.completed_le made) (reaches.le_completed (Nat.le_refl made))

theorem reaches_of_completed_eq {made : Nat} (all : sender.completed made = made) :
    sender.Reaches made := by
  intro interrupted cancels
  simp only [completed, cancels] at all
  omega

theorem Reaches.totalAfter_eq {made : Nat} (reaches : sender.Reaches made) :
    sender.totalAfter start made = sender.totalAfter start (sender.completed made) := by
  rw [reaches.completed_eq]

/-- Every ending reports the stats of the completed attempts. -/
theorem Follows.stats {index elapsed : Nat} {course : Course σ}
    (follows : sender.Follows start index elapsed course) (reaches : sender.Reaches index)
    {stats : WriteStats} (ends : course.ending.stats? = some stats) :
    stats = sender.totalAfter start (sender.completed (index + course.requests.length)) := by
  induction follows with
  -- The one attempt that is made without being completed.
  | @interrupted index elapsed cancels =>
      cases ends
      rw [completed, cancels]
      show _ = sender.totalAfter start (min (index + 1) index)
      rw [Nat.min_eq_right (Nat.le_succ index)]
  | @succeeded index elapsed completes verdict =>
      cases (stats_acceptance _ _).symm.trans ends
      exact (reaches.succ completes).totalAfter_eq
  | @refused index elapsed error completes verdict =>
      cases ends
      exact (reaches.succ completes).totalAfter_eq
  | @exhausted index elapsed error hint completes verdict spent =>
      cases ends
      exact (reaches.succ completes).totalAfter_eq
  | overflowed => cases ends
  | @abandoned index elapsed error hint delay completes verdict remains waits cancels =>
      cases ends
      exact (reaches.succ completes).totalAfter_eq
  | @retried index elapsed error hint delay rest completes verdict remains waits persists follows
      inductionHypothesis =>
      rw [inductionHypothesis (reaches.succ completes) ends]
      show _ = sender.totalAfter start (sender.completed (index + (rest.requests.length + 1)))
      rw [Nat.add_right_comm, Nat.add_assoc]

/-- The replies to the attempts of a run that completed, in order. -/
def repliesOf (sender : Sender σ) (start : σ) : List Reply :=
  (List.range (sender.completed (sender.send start).requests.length)).map (sender.replyAt start)

theorem length_repliesOf :
    (sender.repliesOf start).length = sender.completed (sender.send start).requests.length := by
  rw [repliesOf, List.length_map, List.length_range]

theorem getLast?_repliesOf {last : Nat} (count : (sender.repliesOf start).length = last + 1) :
    (sender.repliesOf start).getLast? = some (sender.replyAt start last) := by
  rw [length_repliesOf] at count
  rw [repliesOf, count, List.range_succ, List.map_append, List.map_singleton,
    List.getLast?_append, List.getLast?_singleton, Option.some_or]

/-- The stats of a run are those of its completed attempts. -/
theorem stats_send {stats : WriteStats} (ends : (sender.send start).ending.stats? = some stats) :
    stats = sender.totalAfter start (sender.completed (sender.send start).requests.length) := by
  by_cases begins : sender.cancel = some .beforeStart
  · rw [send, if_pos begins] at ends ⊢
    cases ends
    rw [completed, begins]
    rfl
  · have reaches : sender.Reaches 0 := fun _ _ => Nat.zero_le _
    rw [(sender.follows_send start begins).stats reaches ends, Nat.zero_add]

end Sender

/-! ## Writes -/

namespace Client

variable {σ : Type} (client : Client) (network : Network σ) (message : WriteMessage)
  (cancel : Option CancelPoint) (state : σ)

/-- The replies to the attempts of a write that completed, in order. -/
def completedReplies : List Reply :=
  match (client.prepare message).1 with
  | .error _ => []
  | .ok payload =>
    let sender := client.sender network payload cancel
    (List.range (sender.completed (sender.send state).requests.length)).map
      (sender.replyAt state)

variable {client message}

theorem completedReplies_of_prepare {payload : Payload}
    (prepared : (client.prepare message).1 = .ok payload) :
    client.completedReplies network message cancel state =
      (client.sender network payload cancel).repliesOf state := by
  simp only [completedReplies, prepared, Sender.repliesOf]

theorem completedReplies_of_prepare_error {error : WriteError}
    (unprepared : (client.prepare message).1 = .error error) :
    client.completedReplies network message cancel state = [] := by
  simp only [completedReplies, unprepared]

variable (client message)

/-- Whichever way a write ends, each counter that it reports is the sum over
all replies of completed attempts, up to the limit, and the stats are confirmed
if the last one of them confirms anything. -/
theorem stats_write {stats : WriteStats}
    (ends : (client.write network message cancel state).1.ending.stats? = some stats) :
    (∀ counter : Counter, (counter.read stats).toNat =
      min Counter.limit
        ((client.completedReplies network message cancel state).map (Reply.counted counter)).sum) ∧
      stats.confirmed =
        ((client.completedReplies network message cancel state).getLast?.map
          Reply.confirms).getD false := by
  rw [completedReplies]
  cases prepared : (client.prepare message).1 with
  | error error =>
      rw [client.write_of_prepare_error network prepared] at ends
      cases ends
      refine ⟨fun counter => ?_, rfl⟩
      rw [Counter.read_empty]
      rfl
  | ok payload =>
      rw [write_of_prepare network prepared] at ends
      rw [Sender.stats_send ends]
      refine ⟨fun counter => ?_, Sender.confirmed_totalAfter _ _ _⟩
      rw [Sender.toNat_read_totalAfter, List.map_map]
      rfl

/-- Two failed attempts whose reports exceed the limit, the second one with a
header that is no counter, and a third attempt that is cancelled. -/
theorem stats_write_interrupted :
    let client : Client := { url := ⟨"http", none, .segments ["write"], none, none⟩, config := {} }
    let report (samples exemplars : String) : ScriptedResponse :=
      { status := .internalServerError
        headers := .ofList [(WriteStats.samplesHeaderName, Text.utf8 samples),
          (WriteStats.exemplarsHeaderName, Text.utf8 exemplars)] }
    let server : ScriptedServer :=
      { queue := [report "5" "7", report "18446744073709551615" "many", report "1" "1"] }
    let message : WriteMessage := { typeName := "nothing", structural := some { appended := [] } }
    let network := ScriptedServer.network .zero
    let cancel := some (.duringAttempt 2)
    let replies := client.completedReplies network message cancel server
    let stats : WriteStats := ⟨18446744073709551615, 0, 7, true⟩
    (client.write network message cancel server).1.ending.stats? = some stats ∧
      replies.length = 2 ∧
      (∀ counter : Counter, (counter.read stats).toNat =
        min Counter.limit (replies.map (Reply.counted counter)).sum) ∧
      stats.confirmed = (replies.getLast?.map Reply.confirms).getD false := by
  intro client report server message network cancel replies stats
  have ends : (client.write network message cancel server).1.ending.stats? = some stats := by
    with_unfolding_all decide
  have count : replies.length = 2 := by with_unfolding_all decide
  exact ⟨ends, count, client.stats_write network message cancel server ends⟩

end Client
end RemoteWrite
