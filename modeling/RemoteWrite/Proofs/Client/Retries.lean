import RemoteWrite.Proofs.Client.Attempt
import RemoteWrite.Proofs.Client.Course
import RemoteWrite.Proofs.Client.Write
import RemoteWrite.Simulation.ScriptedServer

/-!
Contract: a write repeats its request exactly as long as that is worth it.

The last attempt is the first whose reply is no reason to retry, or the one
that uses up the budget.

Owns:
- the number of the last attempt;
- the requests, the retries, and the ending of a write that is not cancelled
  and whose delays fit.

Does not own: the stats, or cancelled writes.
-/

namespace RemoteWrite

namespace Sender

variable {σ : Type} (sender : Sender σ) (start : σ)

/-- The number of the last attempt, from zero, of a write that is not
cancelled. -/
def lastAttempt : Nat :=
  ((List.range sender.budget).find? fun index =>
    !(sender.replyAt start index).isRetryable sender.config).getD sender.budget

def endingAt (index : Nat) : Ending :=
  if (sender.replyAt start index).isSuccess then
    acceptance sender.payload (sender.totalAfter start (index + 1))
  else .failed ⟨sender.totalAfter start (index + 1), (sender.replyAt start index).error⟩

/-! ## The last attempt -/

theorem lastAttempt_le : sender.lastAttempt start ≤ sender.budget := by
  rw [lastAttempt]
  cases found : (List.range sender.budget).find? fun index =>
      !(sender.replyAt start index).isRetryable sender.config with
  | none => exact Nat.le_refl _
  | some index =>
      exact Nat.le_of_lt (List.mem_range.mp (List.mem_of_find?_eq_some found))

/-- No attempt comes after one that is not retried. -/
theorem lastAttempt_le_of_final {index : Nat}
    (final : (sender.replyAt start index).isRetryable sender.config = false) :
    sender.lastAttempt start ≤ index := by
  by_cases within : index < sender.budget
  · rw [lastAttempt]
    cases found : (List.range sender.budget).find? fun index =>
        !(sender.replyAt start index).isRetryable sender.config with
    | none =>
        have retried := List.find?_eq_none.mp found index (List.mem_range.mpr within)
        rw [final] at retried
        exact absurd rfl retried
    | some first =>
        refine Nat.le_of_not_lt fun later => ?_
        have retried := (List.find?_range_eq_some.mp found).2.2 index later
        rw [final] at retried
        cases retried
  · exact Nat.le_trans (sender.lastAttempt_le start) (Nat.le_of_not_lt within)

/-- The last attempt is not retried unless it uses up the budget. -/
theorem final_of_lastAttempt_lt (within : sender.lastAttempt start < sender.budget) :
    (sender.replyAt start (sender.lastAttempt start)).isRetryable sender.config = false := by
  rw [lastAttempt] at within ⊢
  cases found : (List.range sender.budget).find? fun index =>
      !(sender.replyAt start index).isRetryable sender.config with
  | none =>
      rw [found] at within
      exact absurd within (Nat.lt_irrefl _)
  | some index =>
      have final := List.find?_some found
      rwa [Bool.not_eq_true'] at final

/-- An attempt that is retried is followed by another. -/
theorem lt_lastAttempt {index : Nat} (reached : index ≤ sender.lastAttempt start)
    (remains : index < sender.budget)
    (retryable : (sender.replyAt start index).isRetryable sender.config = true) :
    index < sender.lastAttempt start := by
  refine Nat.lt_of_le_of_ne reached fun same => ?_
  have final := sender.final_of_lastAttempt_lt start (same ▸ remains)
  rw [← same, retryable] at final
  cases final

/-! ## From an attempt to the last one -/

variable {sender start}

/-- What an attempt that ends the write leaves behind. -/
structure Outcome (sender : Sender σ) (start : σ) (index : Nat) (course : Course σ) : Prop where
  requests :
    course.requests =
      (List.range' index (sender.lastAttempt start + 1 - index)).map sender.requestAt
  errors :
    course.retries.map Retry.error =
      (List.range' index (sender.lastAttempt start - index)).map fun index =>
        (sender.replyAt start index).error
  ending : course.ending = sender.endingAt start (sender.lastAttempt start)

theorem Outcome.of_last {index : Nat} {course : Course σ}
    (last : sender.lastAttempt start = index)
    (requests : course.requests = [sender.requestAt index]) (retries : course.retries = [])
    (ending : course.ending = sender.endingAt start index) :
    Outcome sender start index course where
  requests := by
    rw [last, requests, Nat.add_sub_cancel_left]
    rfl
  errors := by
    rw [last, retries, Nat.sub_self]
    rfl
  ending := by rw [last, ending]

theorem Outcome.precede {index elapsed : Nat} {delay : Time.Duration} {error : WriteError}
    {events : List Logging.Event} {rest : Course σ}
    (retried : index < sender.lastAttempt start)
    (sameError : error = (sender.replyAt start index).error)
    (outcome : Outcome sender start (index + 1) rest) :
    Outcome sender start index
      (Sender.precede [sender.requestAt index] [⟨elapsed, delay, error⟩] events rest) where
  requests := by
    have count : sender.lastAttempt start + 1 - index =
      (sender.lastAttempt start + 1 - (index + 1)) + 1 := by omega
    rw [count, List.range'_succ, List.map_cons, ← outcome.requests]
    rfl
  errors := by
    have count : sender.lastAttempt start - index =
      (sender.lastAttempt start - (index + 1)) + 1 := by omega
    rw [count, List.range'_succ, List.map_cons, ← outcome.errors, ← sameError]
    rfl
  ending := outcome.ending

/-- Without cancellation and overflow the rules lead to the last attempt. -/
theorem Follows.outcome {index elapsed : Nat} {course : Course σ}
    (follows : sender.Follows start index elapsed course)
    (reached : index ≤ sender.lastAttempt start) (persists : sender.cancel = none)
    (fits : course.ending ≠ .delayOverflow) :
    Outcome sender start index course := by
  -- The last attempt is never behind: a rule that ends the write shows that it
  -- is reached, and a retry that it is still ahead.
  induction follows with
  | interrupted cancels => cases persists.symm.trans cancels
  | @succeeded index elapsed completes verdict =>
      obtain ⟨success, final⟩ := Attempt.reply_of_success verdict
      have last := Nat.le_antisymm (sender.lastAttempt_le_of_final start final) reached
      exact .of_last last rfl rfl (by rw [endingAt, if_pos success])
  | @refused index elapsed error completes verdict =>
      obtain ⟨failure, final, sameError⟩ := Attempt.reply_of_fatal verdict
      have last := Nat.le_antisymm (sender.lastAttempt_le_of_final start final) reached
      exact .of_last last rfl rfl (by simp only [endingAt, failure, sameError]; rfl)
  | @exhausted index elapsed error hint completes verdict spent =>
      obtain ⟨failure, _, sameError⟩ := Attempt.reply_of_retry verdict
      have last := Nat.le_antisymm (Nat.le_trans (sender.lastAttempt_le start) spent) reached
      exact .of_last last rfl rfl (by simp only [endingAt, failure, sameError]; rfl)
  | overflowed => exact absurd rfl fits
  | abandoned completes verdict remains waits cancels =>
      rw [cancelsBefore, persists] at cancels
      cases cancels
  | retried completes verdict remains waits persists follows inductionHypothesis =>
      obtain ⟨_, retryable, sameError⟩ := Attempt.reply_of_retry verdict
      have retried := sender.lt_lastAttempt start reached remains retryable
      exact .precede retried sameError (inductionHypothesis retried fits)

end Sender

/-! ## Writes -/

/-- A write that is not cancelled, of a message that can be prepared, on any
network. It makes one request more than the last attempt's number. They carry
the same payload and are numbered from the second one on. The retries know the
errors of the attempts before them, and the last attempt decides the ending. -/
theorem Client.write_uncancelled {σ : Type} (client : Client) (network : Network σ)
    (message : WriteMessage) (payload : Payload) (state : σ)
    (prepared : (client.prepare message).1 = .ok payload)
    (fits : (client.write network message none state).1.ending ≠ .delayOverflow) :
    let course := (client.write network message none state).1
    let sender := client.sender network payload none
    let last := sender.lastAttempt state
    course.requests.length = last + 1 ∧
      payload.protocol = message.protocol ∧
      (∀ (index : Nat) (request : OutgoingRequest), course.requests[index]? = some request →
        request.Carries client.config payload index) ∧
      course.retries.map Retry.error =
        (List.range last).map (fun index => (sender.replyAt state index).error) ∧
      course.ending = sender.endingAt state last := by
  intro course sender last
  have sends : course = sender.send state := client.write_of_prepare network prepared none state
  have begins : sender.cancel ≠ some .beforeStart := nofun
  have follows : sender.Follows state 0 0 course := sends ▸ sender.follows_send state begins
  have outcome := follows.outcome (Nat.zero_le last) rfl fits
  have requests : course.requests = (List.range (last + 1)).map sender.requestAt := by
    rw [outcome.requests, List.range_eq_range']
    rfl
  refine ⟨?_, ?_, ?_, ?_, outcome.ending⟩
  · rw [requests, List.length_map, List.length_range]
  · obtain ⟨plain, compressed, _, _, rfl⟩ := compress_of_prepare prepared
    rfl
  · intro index request found
    rw [requests, List.getElem?_map] at found
    obtain ⟨position, inRange, rfl⟩ := Option.map_eq_some_iff.mp found
    obtain ⟨_, rfl⟩ := List.getElem?_eq_some_iff.mp inRange
    rw [List.getElem_range]
    exact Attempt.carries_request client.url client.config payload index
  · rw [outcome.errors, List.range_eq_range']
    rfl

/-- A server that fails, then wants fewer requests, and accepts the second
retry, which is the last one of the budget. -/
theorem Client.write_uncancelled_twice :
    let client : Client :=
      { url := ⟨"http", none, .segments ["write"], none, none⟩
        config := { backoff := { maxRetries := 2 } } }
    let server : ScriptedServer :=
      { queue := [{ status := .internalServerError, body := [0x6F, 0x6F, 0x70, 0x73] },
          { status := .tooManyRequests }, { status := .noContent }] }
    let message : WriteMessage := { typeName := "nothing", structural := some { appended := [] } }
    let course := (client.write (ScriptedServer.network .zero) message none server).1
    (client.prepare message).1 = .ok ⟨.v1, [0], none⟩ ∧ course.ending ≠ .delayOverflow ∧
      course.requests.length = 3 ∧
      course.retries.map Retry.error =
        [.serverError .internalServerError "oops", .rateLimited ""] ∧
      course.ending = .accepted {} := by
  intro client server message course
  have prepared : (client.prepare message).1 = .ok ⟨.v1, [0], none⟩ := by cbv
  have fits : course.ending ≠ .delayOverflow := by with_unfolding_all decide
  obtain ⟨count, _, _, errors, ending⟩ :=
    client.write_uncancelled (ScriptedServer.network .zero) message _ server prepared fits
  have last : (client.sender (ScriptedServer.network .zero) ⟨.v1, [0], none⟩ none).lastAttempt
      server = 2 := by with_unfolding_all decide
  rw [last] at count errors ending
  refine ⟨prepared, fits, count, errors.trans ?_, ending.trans ?_⟩
  · with_unfolding_all decide
  · with_unfolding_all decide

end RemoteWrite
