import RemoteWrite.Proofs.Client.Accounting
import RemoteWrite.Proofs.Client.RetryAfter

/-!
Contract: a write that can be begun ends in stats or in a failure, but for one
case.

The one sum of a write that can leave its range is that of a delay and a hint.
It does so if the hint is a numeral close to `2 ^ 64`, and stops the writer. A
message that there is no buffer for stops it before the first attempt, whatever
the server does.

Owns:
- when the hint of a reply is too long for the delay of a retry;
- the attempt that such a reply belongs to, along the rules;
- that no other reply stops a writer, and that retries stay within the budget.

Does not own: the sums of stats, which have a limit of their own, or the room
that messages need.
-/

namespace RemoteWrite

/-! ## Delays -/

namespace Backoff

/-- The backoff after a number of retries. -/
def after (config : BackoffConfig) : Nat → Backoff
  | 0 => .new config
  | count + 1 => (after config count).advance

@[simp]
theorem config_after (config : BackoffConfig) (count : Nat) :
    (after config count).config = config := by
  induction count with
  | zero => rfl
  | succ count inductionHypothesis => rw [after, advance, inductionHypothesis]

theorem nanos_delay_after_le (config : BackoffConfig) (count : Nat) :
    (after config count).delay.nanos ≤ config.maxDelay.nanos := by
  rw [delay, Time.Duration.nanos_atMost, config_after]
  exact Nat.min_le_left _ _

end Backoff

theorem BackoffConfig.nanos_maxDelay_lt (config : BackoffConfig) :
    config.maxDelay.nanos < 1000000 * 2 ^ 64 := by
  have bound := config.maxDelayMs.toNat_lt
  show 1000000 * config.maxDelayMs.toNat < 1000000 * 2 ^ 64
  omega

theorem Sender.backoffAfter_eq {σ : Type} (sender : Sender σ) (count : Nat) :
    sender.backoffAfter count = .after sender.config.backoff count := by
  induction count with
  | zero => rfl
  | succ count inductionHypothesis =>
      rw [backoffAfter, inductionHypothesis, Backoff.after]

/-! ## Hints -/

namespace Reply

/-- The seconds of a hint that is a numeral below `2 ^ 64`. -/
def retrySeconds? : Reply → Option UInt64
  | .transportFailure => none
  | .response reply => (reply.headers.text? Http.retryAfterName).bind RetryAfter.seconds?

/-- The hint and the delay after a number of retries are together longer than
any span. -/
def Overflows (config : BackoffConfig) (retries : Nat) (reply : Reply) : Prop :=
  ∃ seconds, reply.retrySeconds? = some seconds ∧
    Time.nanosPerSecond * 2 ^ 64 ≤
      (Backoff.after config retries).delay.nanos + Time.nanosPerSecond * seconds.toNat

theorem hint_of_retrySeconds? {reply : Reply} {seconds : UInt64}
    (numeral : reply.retrySeconds? = some seconds) (now : Time.Duration) :
    reply.hint now = .ofSeconds seconds := by
  cases reply with
  | transportFailure => cases numeral
  | response reply =>
      obtain ⟨text, present, read⟩ := Option.bind_eq_some_iff.mp numeral
      rw [hint, Attempt.hint, present]
      exact RetryAfter.delay_of_seconds? read now

theorem nanos_hint_lt {reply : Reply} (other : reply.retrySeconds? = none) (now : Time.Duration) :
    (reply.hint now).nanos < Time.nanosPerSecond * 2 ^ 43 := by
  cases reply with
  | transportFailure =>
      show 0 < Time.nanosPerSecond * 2 ^ 43
      decide
  | response reply =>
      rw [hint, Attempt.hint]
      cases present : reply.headers.text? Http.retryAfterName with
      | none =>
          show 0 < Time.nanosPerSecond * 2 ^ 43
          decide
      | some text =>
          rw [retrySeconds?, present, Option.bind_some] at other
          exact RetryAfter.nanos_delay_lt other now

/-- Dates and unreadable hints always fit. -/
theorem add?_hint_eq_none_iff (config : BackoffConfig) (retries : Nat) (reply : Reply)
    (now : Time.Duration) :
    (Backoff.after config retries).delay.add? (reply.hint now) = none ↔
      reply.Overflows config retries := by
  rw [Time.Duration.add?_eq_none_iff]
  cases read : reply.retrySeconds? with
  | some seconds =>
      rw [hint_of_retrySeconds? read]
      constructor
      · exact fun long => ⟨seconds, read, long⟩
      · rintro ⟨others, same, long⟩
        cases read.symm.trans same
        exact long
  | none =>
      have short := nanos_hint_lt read now
      have delay := Backoff.nanos_delay_after_le config retries
      have longest := config.nanos_maxDelay_lt
      constructor
      · intro long
        rw [Time.nanosPerSecond] at short long
        omega
      · rintro ⟨seconds, same, _⟩
        cases read.symm.trans same

end Reply

/-! ## Runs -/

namespace Sender

variable {σ : Type} {sender : Sender σ} {start : σ}

/-- No delay fits after this attempt: it completes, it is worth a retry that
the budget allows, and its reply asks for too much. -/
structure StopsAt (sender : Sender σ) (start : σ) (index : Nat) : Prop where
  completes : sender.Reaches (index + 1)
  retryable : (sender.replyAt start index).isRetryable sender.config = true
  remains : index < sender.budget
  overflows : (sender.replyAt start index).Overflows sender.config.backoff index

/-- The sum that is computed after an attempt. -/
theorem add?_eq_none_iff {index : Nat} {error : WriteError} {hint : Time.Duration}
    (verdict : (sender.attemptAt start index).verdict = .retry error hint) :
    (sender.backoffAfter index).delay.add? hint = none ↔
      (sender.replyAt start index).Overflows sender.config.backoff index := by
  rw [Attempt.hint_of_retry verdict, backoffAfter_eq, Reply.add?_hint_eq_none_iff]

theorem acceptance_ne_delayOverflow (payload : Payload) (stats : WriteStats) :
    acceptance payload stats ≠ .delayOverflow := by
  intro stops
  have reports := stats_acceptance payload stats
  rw [stops] at reports
  cases reports

/-- Where one attempt was made, it is the last one. -/
theorem stopsAt_last {index : Nat}
    (stops : ∃ last, index + 1 = last + 1 ∧ sender.StopsAt start last) :
    sender.StopsAt start index := by
  obtain ⟨last, same, stops⟩ := stops
  cases same
  exact stops

/-- A write stops at its last attempt or not at all. -/
theorem Follows.delayOverflow_iff {index elapsed : Nat} {course : Course σ}
    (follows : sender.Follows start index elapsed course) (reaches : sender.Reaches index) :
    course.ending = .delayOverflow ↔
      ∃ last, index + course.requests.length = last + 1 ∧ sender.StopsAt start last := by
  -- Every rule but one contradicts one of the conditions for stopping.
  induction follows with
  | @interrupted index elapsed cancels =>
      refine ⟨nofun, fun stops => ?_⟩
      exact absurd ((stopsAt_last stops).completes index cancels) (Nat.not_succ_le_self index)
  | succeeded completes verdict =>
      refine ⟨fun stops => absurd stops (acceptance_ne_delayOverflow _ _), fun stops => ?_⟩
      have final := (Attempt.reply_of_success verdict).2
      cases final.symm.trans (stopsAt_last stops).retryable
  | refused completes verdict =>
      refine ⟨nofun, fun stops => ?_⟩
      have final := (Attempt.reply_of_fatal verdict).2.1
      cases final.symm.trans (stopsAt_last stops).retryable
  | exhausted completes verdict spent =>
      exact ⟨nofun, fun stops => absurd (stopsAt_last stops).remains (Nat.not_lt_of_le spent)⟩
  | @overflowed index elapsed error hint completes verdict remains waits =>
      have retryable := (Attempt.reply_of_retry verdict).2.1
      exact ⟨fun _ => ⟨index, rfl, reaches.succ completes, retryable, remains,
        (add?_eq_none_iff verdict).mp waits⟩, fun _ => rfl⟩
  | abandoned completes verdict remains waits cancels =>
      refine ⟨nofun, fun stops => ?_⟩
      have noSum := (add?_eq_none_iff verdict).mpr (stopsAt_last stops).overflows
      cases waits.symm.trans noSum
  | @retried index elapsed error hint delay rest completes verdict remains waits persists follows
      inductionHypothesis =>
      have made : index + (rest.requests.length + 1) = index + 1 + rest.requests.length := by omega
      show rest.ending = _ ↔ ∃ last, index + (rest.requests.length + 1) = _ ∧ _
      rw [made]
      exact inductionHypothesis (reaches.succ completes)

/-- There are no more retries than the budget allows. -/
theorem Follows.length_retries_le {index elapsed : Nat} {course : Course σ}
    (follows : sender.Follows start index elapsed course) (within : index ≤ sender.budget) :
    index + course.retries.length ≤ sender.budget := by
  induction follows with
  | interrupted => exact within
  | succeeded => exact within
  | refused => exact within
  | exhausted => exact within
  | overflowed => exact within
  | abandoned completes verdict remains => exact remains
  | @retried index elapsed error hint delay rest completes verdict remains waits persists follows
      inductionHypothesis =>
      have bound := inductionHypothesis remains
      show index + (rest.retries.length + 1) ≤ sender.budget
      omega

theorem length_retries_send_le : (sender.send start).retries.length ≤ sender.budget := by
  by_cases begins : sender.cancel = some .beforeStart
  · rw [send, if_pos begins]
    exact Nat.zero_le _
  · have bound := (sender.follows_send start begins).length_retries_le (Nat.zero_le _)
    rwa [Nat.zero_add] at bound

/-- A run stops exactly if all its attempts completed and the last one leaves
no delay. -/
theorem delayOverflow_send_iff :
    (sender.send start).ending = .delayOverflow ↔
      (sender.send start).requests.length = (sender.repliesOf start).length ∧
      (sender.repliesOf start).length ≤ sender.budget ∧
      ∃ reply, (sender.repliesOf start).getLast? = some reply ∧
        reply.isRetryable sender.config = true ∧
        reply.Overflows sender.config.backoff ((sender.repliesOf start).length - 1) := by
  by_cases begins : sender.cancel = some .beforeStart
  · have none : sender.repliesOf start = [] := by
      rw [repliesOf, send, if_pos begins]
      exact congrArg (List.map _) (congrArg List.range (Nat.le_zero.mp (sender.completed_le 0)))
    rw [none, send, if_pos begins]
    constructor
    · intro stops
      cases stops
    · rintro ⟨_, _, _, final, _⟩
      cases final
  rw [(sender.follows_send start begins).delayOverflow_iff fun _ _ => Nat.zero_le _, Nat.zero_add]
  constructor
  · rintro ⟨last, made, completes, retryable, remains, overflows⟩
    have count : (sender.repliesOf start).length = last + 1 := by
      rw [length_repliesOf, made, completes.completed_eq]
    rw [count]
    exact ⟨made, remains, _, getLast?_repliesOf count, retryable, overflows⟩
  · rintro ⟨all, within, reply, final, retryable, overflows⟩
    cases count : (sender.repliesOf start).length with
    | zero =>
        rw [List.length_eq_zero_iff.mp count] at final
        cases final
    | succ last =>
        rw [count] at all within overflows
        cases (getLast?_repliesOf count).symm.trans final
        rw [length_repliesOf, all] at count
        exact ⟨last, all, reaches_of_completed_eq count, retryable, within, overflows⟩

end Sender

/-! ## Writes -/

/-- The course of a write stops under the same condition as its run. -/
theorem Client.delayOverflow_write_iff {σ : Type} (client : Client) (network : Network σ)
    (message : WriteMessage) (cancel : Option CancelPoint) (state : σ) :
    let replies := client.completedReplies network message cancel state
    let course := (client.write network message cancel state).1
    course.retries.length ≤ client.config.backoff.maxRetries.toNat ∧
      (course.ending = .delayOverflow ↔
        course.requests.length = replies.length ∧
        replies.length ≤ client.config.backoff.maxRetries.toNat ∧
        ∃ reply, replies.getLast? = some reply ∧ reply.isRetryable client.config = true ∧
          reply.Overflows client.config.backoff (replies.length - 1)) := by
  intro replies course
  cases prepared : (client.prepare message).1 with
  | error error =>
      have none : replies = [] :=
        completedReplies_of_prepare_error network cancel state prepared
      have ends : course = { ending := .failed ⟨{}, error⟩, state, elapsed := 0 } :=
        client.write_of_prepare_error network prepared cancel state
      rw [none, ends]
      refine ⟨Nat.zero_le _, nofun, ?_⟩
      rintro ⟨_, _, _, final, _⟩
      cases final
  | ok payload =>
      have sends : course = (client.sender network payload cancel).send state :=
        client.write_of_prepare network prepared cancel state
      have same : replies = (client.sender network payload cancel).repliesOf state :=
        completedReplies_of_prepare network cancel state prepared
      rw [sends, same]
      exact ⟨Sender.length_retries_send_le, Sender.delayOverflow_send_iff⟩

/-- A write, on any network, ends in stats or in a failure unless one sum is too
long. Then all attempts have completed, the last reply is a reason for a retry
that the budget allows, and its hint is a numeral whose seconds do not fit
together with the delay. Only a message that needs more room than the buffer of
the client can get has no course. -/
theorem Client.write_ends {σ : Type} (client : Client) (network : Network σ)
    (message : WriteMessage) (cancel : Option CancelPoint) (state : σ) :
    match client.write? network message cancel state with
    | none => client.encoder.Overflows message
    | some written =>
      let replies := client.completedReplies network message cancel state
      let course := written.1
      ¬ client.encoder.Overflows message ∧
        course.retries.length ≤ client.config.backoff.maxRetries.toNat ∧
        (course.ending = .delayOverflow ↔
          course.requests.length = replies.length ∧
          replies.length ≤ client.config.backoff.maxRetries.toNat ∧
          ∃ reply, replies.getLast? = some reply ∧ reply.isRetryable client.config = true ∧
            reply.Overflows client.config.backoff (replies.length - 1)) := by
  rcases client.write?_cases network message cancel state with
    ⟨overflows, nothing⟩ | ⟨fits, writes⟩
  · rw [nothing]
    exact overflows
  rw [writes]
  exact ⟨fits, client.delayOverflow_write_iff network message cancel state⟩

/-- One failure with the largest number of seconds stops the writer, although
the server would accept the retry. -/
theorem Client.write_ends_overflow :
    let client : Client :=
      { url := ⟨"http", none, .segments ["write"], none, none⟩
        config := { backoff := { maxRetries := 1 } } }
    let busy : ScriptedResponse :=
      { status := .internalServerError
        headers := .ofList [(Http.retryAfterName, Text.utf8 "18446744073709551615")] }
    let server : ScriptedServer := { queue := [busy, { status := .noContent }] }
    let message : WriteMessage := { typeName := "nothing", structural := some { appended := [] } }
    let course := (client.write (ScriptedServer.network .zero) message none server).1
    (Backoff.after client.config.backoff 0).delay.add? (.ofSeconds 18446744073709551615) = none ∧
      (client.write? (ScriptedServer.network .zero) message none server).isSome = true ∧
      course.ending = .delayOverflow ∧ course.requests.length = 1 ∧ course.retries = [] := by
  with_unfolding_all decide

end RemoteWrite
