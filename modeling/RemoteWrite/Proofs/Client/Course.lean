import RemoteWrite.Client.Send

/-!
Contract: the course of a write as a sequence of attempts.

A write is a loop over attempts. Its rules say what may follow an attempt: the
end in one of six ways, or a retry and the next attempt. Every course obeys
them, so what holds of writes is proved by induction on the rules.

Owns:
- the requests, the replies, and the totals of the attempts of a sender, as if
  it never stopped;
- the rules, and that they describe the loop.

Does not own: which attempt is the last one.
-/

namespace RemoteWrite.Sender

variable {σ : Type} (sender : Sender σ) (start : σ)

/-! ## Attempts in order -/

def requestAt (index : Nat) : OutgoingRequest :=
  Attempt.request sender.url sender.config sender.payload index

/-- The world after a number of attempts. -/
def stateAfter : Nat → σ
  | 0 => start
  | count + 1 => (sender.network.post (stateAfter count) (sender.requestAt count)).2

def replyAt (index : Nat) : Reply :=
  (sender.network.post (sender.stateAfter start index) (sender.requestAt index)).1

/-- An attempt with what its reply means. -/
def attemptAt (index : Nat) : Attempt :=
  .ofReply sender.config (sender.network.now (sender.stateAfter start (index + 1)))
    (sender.replyAt start index)

/-- The stats of a number of attempts together. -/
def totalAfter : Nat → WriteStats
  | 0 => {}
  | count + 1 => (totalAfter count).add (sender.attemptAt start count).stats

/-- The number of retries that the configuration allows. -/
def budget : Nat := sender.config.backoff.maxRetries.toNat

/-- The backoff after a number of retries. -/
def backoffAfter : Nat → Backoff
  | 0 => .new sender.config.backoff
  | count + 1 => (backoffAfter count).advance

@[simp]
theorem attempt_backoffAfter (count : Nat) : (sender.backoffAfter count).attempt = count := by
  induction count with
  | zero => rfl
  | succ count inductionHypothesis =>
      rw [backoffAfter, Backoff.advance, inductionHypothesis]

@[simp]
theorem config_backoffAfter (count : Nat) :
    (sender.backoffAfter count).config = sender.config.backoff := by
  induction count with
  | zero => rfl
  | succ count inductionHypothesis =>
      rw [backoffAfter, Backoff.advance, inductionHypothesis]

/-- Retries end with the budget. -/
theorem canRetry_backoffAfter (count : Nat) :
    (sender.backoffAfter count).canRetry = decide (count < sender.budget) := by
  rw [Backoff.canRetry, attempt_backoffAfter, config_backoffAfter, budget]

/-! ## Rules -/

/-- The course of a write from an attempt on, after the given milliseconds of
waiting. -/
inductive Follows : Nat → Nat → Course σ → Prop where
  /-- The write is cancelled while the attempt is on its way. -/
  | interrupted {index elapsed : Nat}
      (cancels : sender.cancel = some (.duringAttempt index)) :
      Follows index elapsed {
        ending := cancelled (sender.totalAfter start index)
        state := sender.stateAfter start (index + 1)
        elapsed
        requests := [sender.requestAt index] }
  | succeeded {index elapsed : Nat}
      (completes : sender.cancel ≠ some (.duringAttempt index))
      (verdict : (sender.attemptAt start index).verdict = .success) :
      Follows index elapsed {
        ending := acceptance sender.payload (sender.totalAfter start (index + 1))
        state := sender.stateAfter start (index + 1)
        elapsed
        requests := [sender.requestAt index]
        events := (sender.attemptAt start index).events }
  | refused {index elapsed : Nat} {error : WriteError}
      (completes : sender.cancel ≠ some (.duringAttempt index))
      (verdict : (sender.attemptAt start index).verdict = .fatal error) :
      Follows index elapsed {
        ending := .failed ⟨sender.totalAfter start (index + 1), error⟩
        state := sender.stateAfter start (index + 1)
        elapsed
        requests := [sender.requestAt index]
        events := (sender.attemptAt start index).events }
  /-- The attempt fails and no retry is left. -/
  | exhausted {index elapsed : Nat} {error : WriteError} {hint : Time.Duration}
      (completes : sender.cancel ≠ some (.duringAttempt index))
      (verdict : (sender.attemptAt start index).verdict = .retry error hint)
      (spent : sender.budget ≤ index) :
      Follows index elapsed {
        ending := .failed ⟨sender.totalAfter start (index + 1), error⟩
        state := sender.stateAfter start (index + 1)
        elapsed
        requests := [sender.requestAt index]
        events := (sender.attemptAt start index).events ++ [.retriesExhausted index] }
  /-- The attempt fails and the next delay is longer than any span. -/
  | overflowed {index elapsed : Nat} {error : WriteError} {hint : Time.Duration}
      (completes : sender.cancel ≠ some (.duringAttempt index))
      (verdict : (sender.attemptAt start index).verdict = .retry error hint)
      (remains : index < sender.budget)
      (waits : (sender.backoffAfter index).delay.add? hint = none) :
      Follows index elapsed {
        ending := .delayOverflow
        state := sender.stateAfter start (index + 1)
        elapsed
        requests := [sender.requestAt index]
        events := (sender.attemptAt start index).events }
  /-- The attempt fails and the write is cancelled before the retry. -/
  | abandoned {index elapsed : Nat} {error : WriteError} {hint delay : Time.Duration}
      (completes : sender.cancel ≠ some (.duringAttempt index))
      (verdict : (sender.attemptAt start index).verdict = .retry error hint)
      (remains : index < sender.budget)
      (waits : (sender.backoffAfter index).delay.add? hint = some delay)
      (cancels : sender.cancelsBefore (index + 1) = true) :
      Follows index elapsed
        (precede [sender.requestAt index] [⟨elapsed, delay, error⟩]
          ((sender.attemptAt start index).events ++ [.retrying (index + 1)]) {
            ending := cancelled (sender.totalAfter start (index + 1))
            state := sender.stateAfter start (index + 1)
            elapsed })
  /-- The attempt fails and is retried. -/
  | retried {index elapsed : Nat} {error : WriteError} {hint delay : Time.Duration}
      {rest : Course σ}
      (completes : sender.cancel ≠ some (.duringAttempt index))
      (verdict : (sender.attemptAt start index).verdict = .retry error hint)
      (remains : index < sender.budget)
      (waits : (sender.backoffAfter index).delay.add? hint = some delay)
      (persists : sender.cancelsBefore (index + 1) = false)
      (follows : Follows (index + 1) (elapsed + waitMillis delay) rest) :
      Follows index elapsed
        (precede [sender.requestAt index] [⟨elapsed, delay, error⟩]
          ((sender.attemptAt start index).events ++ [.retrying (index + 1)]) rest)

/-- The loop obeys the rules from every attempt on. -/
theorem follows_sendFrom (index elapsed : Nat) :
    sender.Follows start index elapsed
      (sender.sendFrom (sender.backoffAfter index) (sender.totalAfter start index) elapsed
        (sender.stateAfter start index)) := by
  -- What the loop computes from the state of the world has a name by its number.
  have posted : sender.network.post (sender.stateAfter start index)
      (Attempt.request sender.url sender.config sender.payload index) =
        (sender.replyAt start index, sender.stateAfter start (index + 1)) := rfl
  have judged : Attempt.ofReply sender.config
      (sender.network.now (sender.stateAfter start (index + 1))) (sender.replyAt start index) =
        sender.attemptAt start index := rfl
  rw [sendFrom, attempt_backoffAfter, canRetry_backoffAfter]
  simp only [posted, judged, List.append_nil]
  by_cases cancels : sender.cancel = some (.duringAttempt index)
  · rw [if_pos cancels]
    exact .interrupted cancels
  rw [if_neg cancels]
  cases verdict : (sender.attemptAt start index).verdict with
  | success => exact .succeeded cancels verdict
  | fatal error => exact .refused cancels verdict
  | retry error hint =>
      by_cases remains : index < sender.budget
      · simp only [remains, decide_true, if_true]
        cases waits : (sender.backoffAfter index).delay.add? hint with
        | none => exact .overflowed cancels verdict remains waits
        | some delay =>
            cases stops : sender.cancelsBefore (index + 1) with
            | true => exact .abandoned cancels verdict remains waits stops
            | false =>
                exact .retried cancels verdict remains waits stops
                  (follows_sendFrom (index + 1) (elapsed + waitMillis delay))
      · simp only [remains, decide_false, Bool.false_eq_true, if_false]
        exact .exhausted cancels verdict (Nat.le_of_not_lt remains)
termination_by sender.budget - index

/-- A write that is not cancelled beforehand obeys the rules from the first
attempt on. -/
theorem follows_send (begins : sender.cancel ≠ some .beforeStart) :
    sender.Follows start 0 0 (sender.send start) := by
  rw [send, if_neg begins]
  exact sender.follows_sendFrom start 0 0

/-- A write whose first attempt succeeds makes no other. -/
theorem send_of_success (persists : sender.cancel = none)
    (verdict : (sender.attemptAt start 0).verdict = .success) :
    sender.send start = {
      ending := acceptance sender.payload (sender.totalAfter start 1)
      state := sender.stateAfter start 1
      elapsed := 0
      requests := [sender.requestAt 0]
      events := (sender.attemptAt start 0).events } := by
  have follows := sender.follows_send start (persists ▸ nofun)
  generalize sender.send start = course at follows ⊢
  cases follows with
  | interrupted cancels => cases persists.symm.trans cancels
  | succeeded => rfl
  | refused _ other => cases verdict.symm.trans other
  | exhausted _ other => cases verdict.symm.trans other
  | overflowed _ other => cases verdict.symm.trans other
  | abandoned _ other => cases verdict.symm.trans other
  | retried _ other => cases verdict.symm.trans other

end RemoteWrite.Sender
