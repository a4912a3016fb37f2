import RemoteWrite.Proofs.Client.Backoff
import RemoteWrite.Proofs.Client.Cancellation

/-!
Contract: how long a write waits before each of its retries.

The reply to an attempt is a reason for a retry, and it may ask for a wait. The
delay before the retry is that of the backoff with this wait on top, and the
retry is made whenever this sum is a span, unless the write ends there for
another reason.

Owns:
- what the reply to an attempt asks for when it arrives;
- the retries of a run, cancelled or not, and the delays and times of them;
- the delays of every write in closed form.

Does not own: what a hint stands for.
-/

namespace RemoteWrite

namespace Sender

variable {σ : Type} (sender : Sender σ) (start : σ)

/-- How long the reply to an attempt asks the client to wait when it arrives. -/
def hintAt (index : Nat) : Time.Duration :=
  (sender.replyAt start index).hint (sender.network.now (sender.stateAfter start (index + 1)))

/-- The delay before the retry that may follow an attempt, if it is a span. -/
def delayAt? (index : Nat) : Option Time.Duration :=
  (Backoff.after sender.config.backoff index).delay.add? (sender.hintAt start index)

variable {sender start}

theorem delayAt?_of_retry {index : Nat} {error : WriteError} {hint : Time.Duration}
    (verdict : (sender.attemptAt start index).verdict = .retry error hint) :
    sender.delayAt? start index = (sender.backoffAfter index).delay.add? hint := by
  rw [delayAt?, backoffAfter_eq, Attempt.hint_of_retry verdict, hintAt]

/-! ## Retries of a run -/

/-- Every retry has the delay of the attempt before it, and it comes after the
delays of all earlier retries. -/
theorem Follows.delay_of_retry {index elapsed : Nat} {course : Course σ}
    (follows : sender.Follows start index elapsed course) {later : Nat} {retry : Retry}
    (called : course.retries[later]? = some retry) :
    sender.delayAt? start (index + later) = some retry.delay ∧
      retry.elapsed = elapsed +
        ((course.retries.take later).map fun earlier => waitMillis earlier.delay).sum := by
  induction follows generalizing later with
  | interrupted => cases called
  | succeeded => cases called
  | refused => cases called
  | exhausted => cases called
  | overflowed => cases called
  | abandoned completes verdict remains waits cancels =>
      cases later with
      | zero =>
          cases called
          exact ⟨(delayAt?_of_retry verdict).trans waits, rfl⟩
      | succ later => cases called
  | @retried index elapsed error hint delay rest completes verdict remains waits persists follows
      inductionHypothesis =>
      cases later with
      | zero =>
          cases called
          exact ⟨(delayAt?_of_retry verdict).trans waits, rfl⟩
      | succ later =>
          obtain ⟨sum, time⟩ := inductionHypothesis called
          rw [Nat.add_assoc] at time
          rw [Nat.add_right_comm] at sum
          exact ⟨sum, time⟩

/-- Where one attempt was made that does not continue, there is no retry. -/
theorem lt_zero_iff_of_last {index later : Nat} (last : ¬sender.Continues start index) :
    later < 0 ↔
      index + later < sender.completed (index + 1) ∧ sender.Continues start (index + later) := by
  refine iff_of_false (Nat.not_lt_zero later) ?_
  rintro ⟨completes, continues⟩
  rw [sender.eq_of_lt_completed (Nat.le_add_right index later) completes] at continues
  exact last continues

/-- A retry follows exactly those attempts that complete and continue, also in
a run that is cancelled. -/
theorem Follows.lt_length_retries_iff {index elapsed : Nat} {course : Course σ}
    (follows : sender.Follows start index elapsed course) (reaches : sender.Reaches index)
    (later : Nat) :
    later < course.retries.length ↔
      index + later < sender.completed (index + course.requests.length) ∧
        sender.Continues start (index + later) := by
  induction follows generalizing later with
  -- The one attempt that is made without being completed.
  | @interrupted index elapsed cancels =>
      refine iff_of_false (Nat.not_lt_zero later) fun made => ?_
      have completes := made.1
      simp only [completed, cancels] at completes
      omega
  | succeeded completes verdict =>
      exact lt_zero_iff_of_last (not_continues_of_success verdict)
  | refused completes verdict =>
      exact lt_zero_iff_of_last (not_continues_of_fatal verdict)
  | exhausted completes verdict spent =>
      exact lt_zero_iff_of_last (not_continues_of_spent spent)
  | overflowed completes verdict remains waits =>
      exact lt_zero_iff_of_last (not_continues_of_add?_eq_none verdict waits)
  | @abandoned index elapsed error hint delay completes verdict remains waits cancels =>
      have completed := (reaches.succ completes).completed_eq
      show later < 1 ↔ index + later < sender.completed (index + 1) ∧ _
      rw [completed, Nat.add_lt_add_iff_left]
      refine ⟨fun first => ⟨first, ?_⟩, And.left⟩
      rw [Nat.lt_one_iff.mp first]
      exact continues_of_retry verdict remains waits
  | @retried index elapsed error hint delay rest completes verdict remains waits persists follows
      inductionHypothesis =>
      have reachesNext := reaches.succ completes
      have made : index + (rest.requests.length + 1) = index + 1 + rest.requests.length := by omega
      show later < rest.retries.length + 1 ↔
        index + later < sender.completed (index + (rest.requests.length + 1)) ∧ _
      rw [made]
      cases later with
      | zero =>
          have completed : index < sender.completed (index + 1 + rest.requests.length) :=
            reachesNext.le_completed (Nat.le_add_right _ _)
          exact iff_of_true (Nat.succ_pos _)
            ⟨completed, continues_of_retry verdict remains waits⟩
      | succ later =>
          rw [Nat.add_lt_add_iff_right, inductionHypothesis reachesNext, Nat.add_right_comm]
          rfl

/-- An attempt continues if its reply is a reason for a retry that the budget
allows, and the delay and the hint together are a span. -/
theorem continues_iff {index : Nat} :
    sender.Continues start index ↔
      (sender.replyAt start index).isRetryable sender.config = true ∧ index < sender.budget ∧
        (Backoff.after sender.config.backoff index).delay.nanos +
          (sender.hintAt start index).nanos < Time.nanosPerSecond * 2 ^ 64 := by
  have fits : ¬(sender.replyAt start index).Overflows sender.config.backoff index ↔
      (Backoff.after sender.config.backoff index).delay.nanos +
        (sender.hintAt start index).nanos < Time.nanosPerSecond * 2 ^ 64 := by
    rw [hintAt, ← Nat.not_le, ← Time.Duration.add?_eq_none_iff, Reply.add?_hint_eq_none_iff]
  rw [← fits]
  exact ⟨fun continues => ⟨continues.retryable, continues.remains, continues.fits⟩,
    fun parts => ⟨parts.1, parts.2.1, parts.2.2⟩⟩

/-- The retries of a run with their delays and times. -/
theorem retries_send (sender : Sender σ) (start : σ) (index : Nat) :
    (∀ retry, (sender.send start).retries[index]? = some retry →
      sender.delayAt? start index = some retry.delay ∧
      retry.elapsed = (((sender.send start).retries.take index).map fun earlier =>
        waitMillis earlier.delay).sum) ∧
    (index < (sender.send start).retries.length ↔
      index < sender.completed (sender.send start).requests.length ∧
        sender.Continues start index) := by
  by_cases begins : sender.cancel = some .beforeStart
  · rw [send, if_pos begins]
    constructor
    · intro retry called
      cases called
    · refine iff_of_false (Nat.not_lt_zero index) fun made => ?_
      exact Nat.not_lt_zero index (Nat.lt_of_lt_of_le made.1 (sender.completed_le 0))
  · have follows := sender.follows_send start begins
    refine ⟨fun retry called => ?_, ?_⟩
    · have delays := follows.delay_of_retry called
      rwa [Nat.zero_add, Nat.zero_add] at delays
    · have continues := follows.lt_length_retries_iff (fun _ _ => Nat.zero_le _) index
      rwa [Nat.zero_add, Nat.zero_add] at continues

end Sender

/-! ## Writes -/

/-- Delays between any bounds of up to 9,000,000,000 milliseconds. After each
number of retries the delay is the minimum doubled so many times, or the
maximum where that is less. So delays never decrease, and they stay between the
lesser of the bounds and the maximum. In a write, the delay before a retry is
this one and what the reply before the retry asks for, which is nothing where
no reply arrived; and the retry is made, after the delays of all earlier
retries, exactly if the reply is a reason for it, the budget allows it, and the
sum is a span. -/
theorem BackoffConfig.delays (config : BackoffConfig)
    (minimum : config.minDelayMs.toNat ≤ 9000000000)
    (maximum : config.maxDelayMs.toNat ≤ 9000000000) :
    let shortest := config.minDelay.nanos
    let longest := config.maxDelay.nanos
    (∀ count,
      let backoff := Backoff.after config count
      backoff.delay.nanos = min longest (shortest * 2 ^ count) ∧
      (∀ fewer ≤ count, (Backoff.after config fewer).delay.nanos ≤ backoff.delay.nanos) ∧
      min shortest longest ≤ backoff.delay.nanos ∧ backoff.delay.nanos ≤ longest ∧
      backoff.attempt = count ∧
      (backoff.canRetry = true ↔ count < config.maxRetries.toNat)) ∧
    ∀ {σ : Type} (client : Client) (network : Network σ) (message : WriteMessage)
      (payload : Payload) (cancel : Option CancelPoint) (state : σ),
      client.config.backoff = config → (client.prepare message).1 = .ok payload →
      let sender := client.sender network payload cancel
      let course := (client.write network message cancel state).1
      ∀ index,
        let wait := min longest (shortest * 2 ^ index) + (sender.hintAt state index).nanos
        (sender.replyAt state index = .transportFailure →
          (sender.hintAt state index).nanos = 0) ∧
        (∀ retry, course.retries[index]? = some retry →
          retry.delay.nanos = wait ∧
          retry.elapsed =
            ((course.retries.take index).map fun earlier => waitMillis earlier.delay).sum) ∧
        (index < course.retries.length ↔
          index < sender.completed course.requests.length ∧
          (sender.replyAt state index).isRetryable client.config = true ∧
          index < config.maxRetries.toNat ∧ wait < Time.nanosPerSecond * 2 ^ 64) := by
  intro shortest longest
  have short := isShort_of_millis minimum maximum
  refine ⟨fun count => ⟨Backoff.nanos_delay_after short count,
    fun fewer order => Backoff.nanos_delay_after_mono short order,
    Backoff.le_nanos_delay_after short count, Backoff.nanos_delay_after_le config count,
    Backoff.attempt_after config count, Backoff.canRetry_after_iff config count⟩, ?_⟩
  intro σ client network message payload cancel state configured prepared sender course index wait
  have sends : course = sender.send state := client.write_of_prepare network prepared cancel state
  have same : sender.config.backoff = config := configured
  have budget : sender.budget = config.maxRetries.toNat := by rw [Sender.budget, same]
  have sum : (Backoff.after sender.config.backoff index).delay.nanos +
      (sender.hintAt state index).nanos = wait := by
    rw [same, Backoff.nanos_delay_after short]
  obtain ⟨delays, continues⟩ := sender.retries_send state index
  rw [sends]
  refine ⟨fun failure => ?_, fun retry called => ?_, ?_⟩
  · rw [Sender.hintAt, failure]
    rfl
  · obtain ⟨fits, time⟩ := delays retry called
    exact ⟨(Time.Duration.nanos_of_add?_eq_some fits).trans sum, time⟩
  · rw [continues, Sender.continues_iff, budget, sum]
    exact Iff.rfl

/-- A server that fails and asks for two seconds, then wants fewer requests,
and accepts the second retry. The delay of a fourth retry would be at the
maximum. -/
theorem BackoffConfig.delays_hinted :
    let config : BackoffConfig := { minDelayMs := 3, maxDelayMs := 10 }
    let client : Client :=
      { url := ⟨"http", none, .segments ["write"], none, none⟩, config := { backoff := config } }
    let busy : ScriptedResponse :=
      { status := .internalServerError
        headers := .ofList [(Http.retryAfterName, Text.utf8 "2")] }
    let server : ScriptedServer :=
      { queue := [busy, { status := .tooManyRequests }, { status := .noContent }] }
    let message : WriteMessage := { typeName := "nothing", structural := some { appended := [] } }
    let network := ScriptedServer.network .zero
    let course := (client.write network message none server).1
    config.minDelayMs.toNat ≤ 9000000000 ∧ config.maxDelayMs.toNat ≤ 9000000000 ∧
      client.config.backoff = config ∧ (client.prepare message).1 = .ok ⟨.v1, [0], none⟩ ∧
      (Backoff.after config 1).delay.nanos = 6000000 ∧
      (Backoff.after config 3).delay.nanos = 10000000 ∧
      course.retries.length = 2 ∧
      (∀ retry, course.retries[0]? = some retry → retry.delay.nanos = 2003000000) ∧
      ∀ retry, course.retries[1]? = some retry →
        retry.delay.nanos = 6000000 ∧ retry.elapsed = 2003 := by
  intro config client busy server message network course
  have minimum : config.minDelayMs.toNat ≤ 9000000000 := by decide
  have maximum : config.maxDelayMs.toNat ≤ 9000000000 := by decide
  have prepared : (client.prepare message).1 = .ok ⟨.v1, [0], none⟩ := by cbv
  have count : course.retries.length = 2 := by with_unfolding_all decide
  have waited : ((course.retries.take 1).map fun earlier => waitMillis earlier.delay).sum =
      2003 := by with_unfolding_all decide
  let sender := client.sender network ⟨.v1, [0], none⟩ none
  have first : sender.hintAt server 0 = .ofSeconds 2 := by with_unfolding_all decide
  have second : sender.hintAt server 1 = .zero := by with_unfolding_all decide
  obtain ⟨closed, runs⟩ := config.delays minimum maximum
  have run := runs client network message ⟨.v1, [0], none⟩ none server rfl prepared
  refine ⟨minimum, maximum, rfl, prepared, (closed 1).1.trans (by decide),
    (closed 3).1.trans (by decide), count, ?_, ?_⟩
  · intro retry called
    obtain ⟨delay, _⟩ := (run 0).2.1 retry called
    rw [delay, first]
    decide
  · intro retry called
    obtain ⟨delay, time⟩ := (run 1).2.1 retry called
    rw [delay, second, time, waited]
    decide

end RemoteWrite
