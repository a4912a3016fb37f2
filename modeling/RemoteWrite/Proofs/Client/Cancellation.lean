import RemoteWrite.Proofs.Client.Overflow

/-!
Contract: what a cancelled write has done is what it would have done until then.

Owns:
- how far a write has come at every point where it can be cancelled, and which
  replies take it there;
- the course of a cancelled write, cut out of that of the same write without
  cancellation.

Does not own: the course of a write that is not cancelled.
-/

namespace RemoteWrite

/-! ## Points of a write -/

namespace CancelPoint

/-- The number of attempts whose requests were made. -/
def started : CancelPoint → Nat
  | beforeStart => 0
  | duringAttempt attempt => attempt + 1
  | onRetry retry | duringDelay retry => retry

/-- The number of attempts that completed, all of which failed and were
reported to the retry callback. -/
def completed : CancelPoint → Nat
  | beforeStart => 0
  | duringAttempt attempt => attempt
  | onRetry retry | duringDelay retry => retry

theorem completed_le_started (point : CancelPoint) : point.completed ≤ point.started := by
  cases point with
  | beforeStart => exact Nat.le_refl _
  | duringAttempt attempt => exact Nat.le_succ attempt
  | onRetry retry | duringDelay retry => exact Nat.le_refl _

/-- The course, which starts with the attempt of the given number, comes to the
point. -/
def IsReachedFrom {σ : Type} (index : Nat) (course : Course σ) : CancelPoint → Prop
  | beforeStart => False
  | duringAttempt attempt => index ≤ attempt ∧ attempt < index + course.requests.length
  | onRetry retry | duringDelay retry =>
    index < retry ∧ retry ≤ index + course.retries.length

/-- A write with this course comes to the point. -/
def IsReachedBy {σ : Type} (course : Course σ) (point : CancelPoint) : Prop :=
  point = .beforeStart ∨ point.IsReachedFrom 0 course

end CancelPoint

namespace Sender

variable {σ : Type} (sender : Sender σ) (start : σ)

/-- The same sender with another cancellation, or with none. -/
def under (cancel : Option CancelPoint) : Sender σ := { sender with cancel }

/-- The course that ends while an attempt is on its way. -/
def interruptedAt (index elapsed : Nat) : Course σ where
  ending := cancelled (sender.totalAfter start index)
  state := sender.stateAfter start (index + 1)
  elapsed
  requests := [sender.requestAt index]

/-- One round of the loop. What the attempts do has nothing to do with the
cancellation. -/
theorem sendFrom_under (cancel : Option CancelPoint) (index elapsed : Nat) :
    (sender.under cancel).sendFrom (sender.backoffAfter index) (sender.totalAfter start index)
        elapsed (sender.stateAfter start index) =
      let attempt := sender.attemptAt start index
      let total := sender.totalAfter start (index + 1)
      let state := sender.stateAfter start (index + 1)
      let done (ending : Ending) (events : List Logging.Event) : Course σ :=
        { ending, state, elapsed
          requests := [sender.requestAt index], events := attempt.events ++ events }
      if cancel = some (.duringAttempt index) then sender.interruptedAt start index elapsed
      else match attempt.verdict with
        | .success => done (acceptance sender.payload total) []
        | .fatal error => done (.failed ⟨total, error⟩) []
        | .retry error hint =>
          if index < sender.budget then
            match (sender.backoffAfter index).delay.add? hint with
            | none => done .delayOverflow []
            | some delay =>
              precede [sender.requestAt index] [⟨elapsed, delay, error⟩]
                (attempt.events ++ [.retrying (index + 1)])
                (if (sender.under cancel).cancelsBefore (index + 1) then
                  { ending := cancelled total, state, elapsed }
                else
                  (sender.under cancel).sendFrom (sender.backoffAfter (index + 1)) total
                    (elapsed + waitMillis delay) state)
          else done (.failed ⟨total, error⟩) [.retriesExhausted index] := by
  rw [sendFrom, attempt_backoffAfter, canRetry_backoffAfter]
  simp only [decide_eq_true_eq]
  rfl

/-! ## Cuts -/

/-- What is left of a course, from an attempt on, that is cut off at a point
that it comes to. -/
structure IsCutAt (point : CancelPoint) (index : Nat) (course cut : Course σ) : Prop where
  requests : cut.requests = course.requests.take (point.started - index)
  made : cut.requests.length = point.started - index
  retries : cut.retries = course.retries.take (point.completed - index)
  called : cut.retries.length = point.completed - index
  state : cut.state = sender.stateAfter start point.started
  ending : cut.ending = cancelled (sender.totalAfter start point.completed)

/-- A course cut off at a point, or as it is where it does not come to it. -/
structure Cuts (point : CancelPoint) (index : Nat) (course cut : Course σ) : Prop where
  reached : point.IsReachedFrom index course → sender.IsCutAt start point index course cut
  missed : ¬point.IsReachedFrom index course → cut = course

variable {sender start}

theorem isCutAt_interruptedAt {index elapsed : Nat} {course : Course σ}
    {rest : List OutgoingRequest} (requests : course.requests = sender.requestAt index :: rest) :
    sender.IsCutAt start (.duringAttempt index) index course
      (sender.interruptedAt start index elapsed) where
  requests := by
    rw [requests, CancelPoint.started, Nat.add_sub_cancel_left]
    rfl
  made := (Nat.add_sub_cancel_left index 1).symm
  retries := by
    rw [CancelPoint.completed, Nat.sub_self]
    rfl
  called := (Nat.sub_self index).symm
  state := rfl
  ending := rfl

/-- An attempt that was made can be interrupted. -/
theorem cuts_duringAttempt {index elapsed : Nat} {course : Course σ}
    {rest : List OutgoingRequest} (requests : course.requests = sender.requestAt index :: rest) :
    sender.Cuts start (.duringAttempt index) index course
      ((sender.under (some (.duringAttempt index))).sendFrom (sender.backoffAfter index)
        (sender.totalAfter start index) elapsed (sender.stateAfter start index)) := by
  have made : index < index + course.requests.length := by
    rw [requests]
    exact Nat.lt_add_of_pos_right (Nat.succ_pos _)
  rw [sendFrom_under, if_pos rfl]
  exact ⟨fun _ => isCutAt_interruptedAt requests, absurd ⟨Nat.le_refl index, made⟩⟩

/-- In the last attempt there is no other point. -/
theorem cuts_of_last {point : CancelPoint} {index elapsed : Nat} {course : Course σ}
    (requests : course.requests = [sender.requestAt index]) (retries : course.retries = [])
    (completes : point ≠ .duringAttempt index →
      (sender.under (some point)).sendFrom (sender.backoffAfter index)
        (sender.totalAfter start index) elapsed (sender.stateAfter start index) = course) :
    sender.Cuts start point index course
      ((sender.under (some point)).sendFrom (sender.backoffAfter index)
        (sender.totalAfter start index) elapsed (sender.stateAfter start index)) := by
  by_cases interrupted : point = .duringAttempt index
  · subst interrupted
    exact cuts_duringAttempt requests
  · refine ⟨fun reached => absurd ?_ interrupted, fun _ => completes interrupted⟩
    cases point with
    | beforeStart => cases reached
    | duringAttempt attempt =>
        obtain ⟨lower, upper⟩ := reached
        rw [requests] at upper
        exact congrArg _ (Nat.le_antisymm (Nat.le_of_lt_succ upper) lower)
    | onRetry retry | duringDelay retry =>
        obtain ⟨lower, upper⟩ := reached
        rw [retries] at upper
        exact absurd lower (Nat.not_lt_of_le upper)

/-- In the callback or the delay of a retry, the attempt before it is done. -/
theorem isCutAt_abandoned {point : CancelPoint} {index elapsed : Nat} {retry : Retry}
    {events : List Logging.Event} {rest : Course σ}
    (started : point.started = index + 1) (completed : point.completed = index + 1) :
    sender.IsCutAt start point index
      (precede [sender.requestAt index] [retry] events rest)
      (precede [sender.requestAt index] [retry] events {
        ending := cancelled (sender.totalAfter start (index + 1))
        state := sender.stateAfter start (index + 1)
        elapsed }) where
  requests := by
    rw [started, Nat.add_sub_cancel_left]
    rfl
  made := by
    rw [started, Nat.add_sub_cancel_left]
    rfl
  retries := by
    rw [completed, Nat.add_sub_cancel_left]
    rfl
  called := by
    rw [completed, Nat.add_sub_cancel_left]
    rfl
  state := by
    rw [started]
    rfl
  ending := by
    rw [completed]
    rfl

/-- A point that comes later is reached after at least one more attempt. -/
theorem lt_completed_of_isReachedFrom {point : CancelPoint} {index : Nat} {course : Course σ}
    (reached : point.IsReachedFrom (index + 1) course) : index < point.completed := by
  cases point with
  | beforeStart => cases reached
  | duringAttempt attempt => exact reached.1
  | onRetry retry | duringDelay retry => exact Nat.lt_of_succ_lt reached.1

theorem isReachedFrom_precede {point : CancelPoint} {index : Nat} {request : OutgoingRequest}
    {retry : Retry} {events : List Logging.Event} {rest : Course σ}
    (completes : point ≠ .duringAttempt index) (persists : point ≠ .onRetry (index + 1))
    (waits : point ≠ .duringDelay (index + 1)) :
    point.IsReachedFrom index (precede [request] [retry] events rest) ↔
      point.IsReachedFrom (index + 1) rest := by
  cases point with
  | beforeStart => exact Iff.rfl
  | duringAttempt attempt =>
      have other : attempt ≠ index := fun same => completes (congrArg _ same)
      show index ≤ attempt ∧ attempt < index + (rest.requests.length + 1) ↔
        index + 1 ≤ attempt ∧ attempt < index + 1 + rest.requests.length
      omega
  | onRetry number =>
      have other : number ≠ index + 1 := fun same => persists (congrArg _ same)
      show index < number ∧ number ≤ index + (rest.retries.length + 1) ↔
        index + 1 < number ∧ number ≤ index + 1 + rest.retries.length
      omega
  | duringDelay number =>
      have other : number ≠ index + 1 := fun same => waits (congrArg _ same)
      show index < number ∧ number ≤ index + (rest.retries.length + 1) ↔
        index + 1 < number ∧ number ≤ index + 1 + rest.retries.length
      omega

theorem IsCutAt.precede {point : CancelPoint} {index : Nat} {request : OutgoingRequest}
    {retry : Retry} {events : List Logging.Event} {rest cut : Course σ}
    (started : index < point.started) (completed : index < point.completed)
    (cuts : sender.IsCutAt start point (index + 1) rest cut) :
    sender.IsCutAt start point index (Sender.precede [request] [retry] events rest)
      (Sender.precede [request] [retry] events cut) := by
  have oneStarted : point.started - index = point.started - (index + 1) + 1 := by omega
  have oneCompleted : point.completed - index = point.completed - (index + 1) + 1 := by omega
  refine ⟨?_, ?_, ?_, ?_, cuts.state, cuts.ending⟩
  · rw [oneStarted]
    exact congrArg (request :: ·) cuts.requests
  · rw [oneStarted]
    exact congrArg Nat.succ cuts.made
  · rw [oneCompleted]
    exact congrArg (retry :: ·) cuts.retries
  · rw [oneCompleted]
    exact congrArg Nat.succ cuts.called

/-- A cut of what follows a retry is a cut of the whole. -/
theorem Cuts.precede {point : CancelPoint} {index : Nat} {request : OutgoingRequest}
    {retry : Retry} {events : List Logging.Event} {rest cut : Course σ}
    (completes : point ≠ .duringAttempt index) (persists : point ≠ .onRetry (index + 1))
    (waits : point ≠ .duringDelay (index + 1))
    (cuts : sender.Cuts start point (index + 1) rest cut) :
    sender.Cuts start point index (Sender.precede [request] [retry] events rest)
      (Sender.precede [request] [retry] events cut) := by
  have later : point.IsReachedFrom index (Sender.precede [request] [retry] events rest) ↔
      point.IsReachedFrom (index + 1) rest := isReachedFrom_precede completes persists waits
  refine ⟨?_, ?_⟩
  · intro reached
    have reachedLater := later.mp reached
    have completed := lt_completed_of_isReachedFrom reachedLater
    have started := Nat.lt_of_lt_of_le completed point.completed_le_started
    exact (cuts.reached reachedLater).precede started completed
  · intro missed
    rw [cuts.missed (mt later.mpr missed)]

theorem cancelsBefore_under {point : CancelPoint} {retry : Nat} :
    (sender.under (some point)).cancelsBefore retry = true ↔
      point = .onRetry retry ∨ point = .duringDelay retry := by
  rw [cancelsBefore, under, Bool.or_eq_true, decide_eq_true_iff, decide_eq_true_iff,
    Option.some_inj, Option.some_inj]

/-- From every attempt on, cancellation at a point cuts the course off there. -/
theorem Follows.cuts {index elapsed : Nat} {course : Course σ}
    (follows : sender.Follows start index elapsed course) (free : sender.cancel = none)
    (point : CancelPoint) :
    sender.Cuts start point index course
      ((sender.under (some point)).sendFrom (sender.backoffAfter index)
        (sender.totalAfter start index) elapsed (sender.stateAfter start index)) := by
  have passes : ∀ {index}, point ≠ .duringAttempt index →
      some point ≠ some (.duringAttempt index) := mt Option.some.inj
  induction follows with
  | interrupted cancels => cases free.symm.trans cancels
  | @succeeded index elapsed completes verdict =>
      refine cuts_of_last rfl rfl fun other => ?_
      rw [sendFrom_under, if_neg (passes other)]
      simp only [verdict, List.append_nil]
  | @refused index elapsed error completes verdict =>
      refine cuts_of_last rfl rfl fun other => ?_
      rw [sendFrom_under, if_neg (passes other)]
      simp only [verdict, List.append_nil]
  | @exhausted index elapsed error hint completes verdict spent =>
      refine cuts_of_last rfl rfl fun other => ?_
      rw [sendFrom_under, if_neg (passes other)]
      simp only [verdict, if_neg (Nat.not_lt.mpr spent)]
  | @overflowed index elapsed error hint completes verdict remains waits =>
      refine cuts_of_last rfl rfl fun other => ?_
      rw [sendFrom_under, if_neg (passes other)]
      simp only [verdict, if_pos remains, waits, List.append_nil]
  | abandoned completes verdict remains waits cancels =>
      rw [cancelsBefore, free] at cancels
      cases cancels
  | @retried index elapsed error hint delay rest completes verdict remains waits persists follows
      inductionHypothesis =>
      by_cases here : point = .duringAttempt index
      · subst here
        exact cuts_duringAttempt rfl
      rw [sendFrom_under, if_neg (passes here)]
      simp only [verdict, if_pos remains, waits]
      by_cases stops : (sender.under (some point)).cancelsBefore (index + 1) = true
      · rw [if_pos stops]
        have bound : index + 1 ≤ index + (rest.retries.length + 1) :=
          Nat.add_le_add_left (Nat.le_add_left 1 _) index
        rcases cancelsBefore_under.mp stops with rfl | rfl
        all_goals exact ⟨fun _ => isCutAt_abandoned rfl rfl, absurd ⟨Nat.lt_succ_self index, bound⟩⟩
      · rw [if_neg stops]
        obtain ⟨noRetry, noDelay⟩ := not_or.mp (mt cancelsBefore_under.mpr stops)
        exact inductionHypothesis.precede here noRetry noDelay

/-- A run that is cancelled is the same run without cancellation, cut off at
the point if it comes there. -/
theorem cuts_send (free : sender.cancel = none) (point : CancelPoint) (start : σ) :
    (point.IsReachedBy (sender.send start) →
      sender.IsCutAt start point 0 (sender.send start) ((sender.under (some point)).send start)) ∧
    (¬point.IsReachedBy (sender.send start) →
      (sender.under (some point)).send start = sender.send start) := by
  by_cases before : point = .beforeStart
  · refine ⟨fun _ => ?_, absurd (.inl before)⟩
    subst before
    have stops : (sender.under (some .beforeStart)).send start =
        { ending := cancelled {}, state := start, elapsed := 0 } := if_pos rfl
    rw [stops]
    exact ⟨rfl, rfl, rfl, rfl, rfl, rfl⟩
  · have begins : sender.cancel ≠ some .beforeStart := free ▸ nofun
    have cuts := (sender.follows_send start begins).cuts free point
    have sends : (sender.under (some point)).send start = (sender.under (some point)).sendFrom
        (sender.backoffAfter 0) (sender.totalAfter start 0) 0 (sender.stateAfter start 0) :=
      if_neg (mt Option.some.inj before)
    rw [sends]
    exact ⟨fun reached => cuts.reached (reached.resolve_left before),
      fun missed => cuts.missed (not_or.mp missed).2⟩

/-! ## Points that are reached -/

/-- A retry follows the attempt: its reply is a reason for one, the budget
allows it, and the delay fits. -/
structure Continues (sender : Sender σ) (start : σ) (index : Nat) : Prop where
  retryable : (sender.replyAt start index).isRetryable sender.config = true
  remains : index < sender.budget
  fits : ¬(sender.replyAt start index).Overflows sender.config.backoff index

/-- By its replies, a run comes to the point: a retry follows all attempts that
are completed there. -/
def ComesTo (sender : Sender σ) (start : σ) : CancelPoint → Prop
  | .beforeStart => True
  | .duringAttempt attempt => ∀ index < attempt, sender.Continues start index
  | .onRetry retry | .duringDelay retry =>
    0 < retry ∧ ∀ index < retry, sender.Continues start index

theorem continues_of_retry {index : Nat} {error : WriteError} {hint delay : Time.Duration}
    (verdict : (sender.attemptAt start index).verdict = .retry error hint)
    (remains : index < sender.budget)
    (waits : (sender.backoffAfter index).delay.add? hint = some delay) :
    sender.Continues start index := by
  refine ⟨(Attempt.reply_of_retry verdict).2.1, remains, ?_⟩
  intro overflows
  cases waits.symm.trans ((add?_eq_none_iff verdict).mpr overflows)

theorem not_continues_of_success {index : Nat}
    (verdict : (sender.attemptAt start index).verdict = .success) :
    ¬sender.Continues start index := by
  intro continues
  cases (Attempt.reply_of_success verdict).2.symm.trans continues.retryable

theorem not_continues_of_fatal {index : Nat} {error : WriteError}
    (verdict : (sender.attemptAt start index).verdict = .fatal error) :
    ¬sender.Continues start index := by
  intro continues
  cases (Attempt.reply_of_fatal verdict).2.1.symm.trans continues.retryable

theorem not_continues_of_add?_eq_none {index : Nat} {error : WriteError} {hint : Time.Duration}
    (verdict : (sender.attemptAt start index).verdict = .retry error hint)
    (waits : (sender.backoffAfter index).delay.add? hint = none) :
    ¬sender.Continues start index :=
  fun continues => continues.fits ((add?_eq_none_iff verdict).mp waits)

theorem not_continues_of_spent {index : Nat} (spent : sender.budget ≤ index) :
    ¬sender.Continues start index :=
  fun continues => absurd continues.remains (Nat.not_lt_of_le spent)

/-- How many retries a course makes from an attempt on, and that one request
more is made. -/
structure Advances (sender : Sender σ) (start : σ) (index : Nat) (course : Course σ) : Prop where
  requests : course.requests.length = course.retries.length + 1
  retries : ∀ count, count ≤ course.retries.length ↔
    ∀ later < count, sender.Continues start (index + later)

/-- No retry follows the last attempt. -/
theorem Advances.of_last {index : Nat} {course : Course σ}
    (requests : course.requests = [sender.requestAt index]) (retries : course.retries = [])
    (last : ¬sender.Continues start index) : Advances sender start index course := by
  refine ⟨by rw [requests, retries]; rfl, fun count => ?_⟩
  rw [retries, List.length_nil]
  constructor
  · intro none later before
    exact absurd before (Nat.not_lt_of_le (Nat.le_trans none (Nat.zero_le later)))
  · intro continues
    exact Nat.le_of_not_lt fun positive => last (continues 0 positive)

theorem Advances.precede {index : Nat} {request : OutgoingRequest} {retry : Retry}
    {events : List Logging.Event} {rest : Course σ} (continues : sender.Continues start index)
    (advances : Advances sender start (index + 1) rest) :
    Advances sender start index (Sender.precede [request] [retry] events rest) := by
  refine ⟨congrArg Nat.succ advances.requests, fun count => ?_⟩
  cases count with
  | zero => exact ⟨fun _ later none => absurd none (Nat.not_lt_zero later), fun _ => Nat.zero_le _⟩
  | succ count =>
      show count + 1 ≤ rest.retries.length + 1 ↔ _
      rw [Nat.add_le_add_iff_right, advances.retries, Nat.forall_lt_succ_left]
      simp only [Nat.add_zero, continues, true_and, Nat.add_assoc, Nat.add_comm 1]

/-- Without cancellation, the rules make retries as long as the replies are
reasons for them. -/
theorem Follows.advances {index elapsed : Nat} {course : Course σ}
    (follows : sender.Follows start index elapsed course) (free : sender.cancel = none) :
    Advances sender start index course := by
  induction follows with
  | interrupted cancels => cases free.symm.trans cancels
  | succeeded completes verdict => exact .of_last rfl rfl (not_continues_of_success verdict)
  | refused completes verdict => exact .of_last rfl rfl (not_continues_of_fatal verdict)
  | exhausted completes verdict spent => exact .of_last rfl rfl (not_continues_of_spent spent)
  | overflowed completes verdict remains waits =>
      exact .of_last rfl rfl (not_continues_of_add?_eq_none verdict waits)
  | abandoned completes verdict remains waits cancels =>
      rw [cancelsBefore, free] at cancels
      cases cancels
  | retried completes verdict remains waits persists follows inductionHypothesis =>
      exact inductionHypothesis.precede (continues_of_retry verdict remains waits)

/-- The replies say which points a run without cancellation comes to. -/
theorem isReachedBy_send_iff (free : sender.cancel = none) (point : CancelPoint) (start : σ) :
    point.IsReachedBy (sender.send start) ↔ sender.ComesTo start point := by
  have begins : sender.cancel ≠ some .beforeStart := free ▸ nofun
  obtain ⟨requests, retries⟩ := (sender.follows_send start begins).advances free
  simp only [Nat.zero_add] at retries
  cases point with
  | beforeStart => exact ⟨fun _ => trivial, fun _ => .inl rfl⟩
  | duringAttempt attempt =>
      rw [ComesTo, ← retries attempt]
      constructor
      · rintro (other | ⟨-, made⟩)
        · cases other
        · rw [Nat.zero_add, requests] at made
          exact Nat.le_of_lt_succ made
      · intro within
        refine .inr ⟨Nat.zero_le attempt, ?_⟩
        rw [Nat.zero_add, requests]
        exact Nat.lt_succ_of_le within
  | onRetry retry | duringDelay retry =>
      rw [ComesTo, ← retries retry]
      constructor
      · rintro (other | ⟨positive, made⟩)
        · cases other
        · rw [Nat.zero_add] at made
          exact ⟨positive, made⟩
      · rintro ⟨positive, within⟩
        refine .inr ⟨positive, ?_⟩
        rwa [Nat.zero_add]

end Sender

/-! ## Writes -/

namespace Client

variable {σ : Type} (client : Client) (network : Network σ) (message : WriteMessage)

/-- The first replies of a write that is not cancelled. -/
theorem take_completedReplies {payload : Payload} {state : σ} {count : Nat}
    (prepared : (client.prepare message).1 = .ok payload)
    (made : count ≤ (client.write network message none state).1.requests.length) :
    (client.completedReplies network message none state).take count =
      (List.range count).map ((client.sender network payload none).replyAt state) := by
  rw [client.write_of_prepare network prepared] at made
  rw [completedReplies_of_prepare network none state prepared, Sender.repliesOf, ← List.map_take]
  have all : (client.sender network payload none).completed
      ((client.sender network payload none).send state).requests.length =
        ((client.sender network payload none).send state).requests.length := rfl
  rw [all, List.take_range, Nat.min_eq_left made]

/-- A write that is cancelled at a point, next to the same write without
cancellation. If its replies take it to the point, it made the same requests
and retries up to there and no others, and reports the attempts that completed.
A message that cannot be prepared fails as it does without cancellation. -/
theorem write_cancelled (point : CancelPoint) (state : σ) :
    let free := (client.write network message none state).1
    let course := (client.write network message (some point) state).1
    (∀ payload, (client.prepare message).1 = .ok payload →
      ((client.sender network payload none).ComesTo state point →
        course.requests = free.requests.take point.started ∧
        course.requests.length = point.started ∧
        course.retries = free.retries.take point.completed ∧
        course.retries.length = point.completed ∧
        course.state = (client.sender network payload none).stateAfter state point.started ∧
        ∃ stats, course.ending = .failed ⟨stats, .cancelled⟩ ∧
          let replies := (client.completedReplies network message none state).take point.completed
          replies.length = point.completed ∧
          (∀ counter : Counter, (counter.read stats).toNat =
            min Counter.limit (replies.map (Reply.counted counter)).sum) ∧
          stats.confirmed = (replies.getLast?.map Reply.confirms).getD false) ∧
      (¬(client.sender network payload none).ComesTo state point → course = free) ∧
      (point = .beforeStart →
        course = { ending := .failed ⟨{}, .cancelled⟩, state, elapsed := 0 })) ∧
    (∀ error, (client.prepare message).1 = .error error → ∀ cancel,
      (client.write network message cancel state).1 =
        { ending := .failed ⟨{}, error⟩, state, elapsed := 0 }) ∧
    ∀ cause, (client.encoder.encode message).payload = .error cause → ∀ cancel,
      (client.write network message cancel state).1 =
        { ending := .failed ⟨{}, .encode cause⟩, state, elapsed := 0 } := by
  intro free course
  refine ⟨?_, ?_, ?_⟩
  · intro payload prepared
    have sends := client.write_of_prepare network prepared
    have freeSends : free = (client.sender network payload none).send state := sends none state
    have courseSends :
        course = ((client.sender network payload none).under (some point)).send state :=
      sends (some point) state
    have uncancelled : (client.sender network payload none).cancel = none := rfl
    obtain ⟨cuts, same⟩ := Sender.cuts_send uncancelled point state
    rw [Sender.isReachedBy_send_iff uncancelled, ← freeSends, ← courseSends] at cuts same
    refine ⟨?_, same, ?_⟩
    · intro reached
      have cut := cuts reached
      have taken : point.started ≤ free.requests.length := by
        calc point.started = course.requests.length := cut.made.symm
          _ = (free.requests.take point.started).length := congrArg List.length cut.requests
          _ ≤ free.requests.length := List.length_take_le' _ _
      have replies := client.take_completedReplies network message prepared
        (Nat.le_trans point.completed_le_started taken)
      refine ⟨cut.requests, cut.made, cut.retries, cut.called, cut.state, _, cut.ending, ?_, ?_, ?_⟩
      · rw [replies, List.length_map, List.length_range]
      · intro counter
        rw [replies, List.map_map]
        exact Sender.toNat_read_totalAfter _ _ counter _
      · rw [replies]
        exact Sender.confirmed_totalAfter _ _ _
    · rintro rfl
      exact (sends (some .beforeStart) state).trans (if_pos rfl)
  · intro error unprepared cancel
    exact client.write_of_prepare_error network unprepared cancel state
  · intro cause fails cancel
    have unprepared : (client.prepare message).1 = .error (.encode cause) := by
      simp only [prepare, fails]
    exact client.write_of_prepare_error network unprepared cancel state

/-- The callback of the second retry cancels the write, which has two attempts
behind it and leaves the third response of the server alone. -/
theorem write_cancelled_onRetry :
    let client : Client :=
      { url := ⟨"http", none, .segments ["write"], none, none⟩
        config := { backoff := { maxRetries := 2 } } }
    let report (samples : String) : ScriptedResponse :=
      { status := .internalServerError
        headers := .ofList [(WriteStats.samplesHeaderName, Text.utf8 samples)] }
    let server : ScriptedServer := { queue := [report "5", report "7", report "11"] }
    let message : WriteMessage := { typeName := "nothing", structural := some { appended := [] } }
    let network := ScriptedServer.network .zero
    let free := (client.write network message none server).1
    let course := (client.write network message (some (.onRetry 2)) server).1
    (client.prepare message).1 = .ok ⟨.v1, [0], none⟩ ∧
      (client.sender network ⟨.v1, [0], none⟩ none).ComesTo server (.onRetry 2) ∧
      free.requests.length = 3 ∧
      course.requests.length = 2 ∧ course.retries.length = 2 ∧
      course.state.queue = [report "11"] ∧
      ∃ stats, course.ending = .failed ⟨stats, .cancelled⟩ ∧
        (Counter.samples.read stats).toNat = 12 := by
  intro client report server message network free course
  have prepared : (client.prepare message).1 = .ok ⟨.v1, [0], none⟩ := by cbv
  have retries : free.retries.length = 2 := by with_unfolding_all decide
  have requests : free.requests.length = 3 := by with_unfolding_all decide
  have sends : free = (client.sender network ⟨.v1, [0], none⟩ none).send server :=
    client.write_of_prepare network prepared none server
  have reached : (client.sender network ⟨.v1, [0], none⟩ none).ComesTo server (.onRetry 2) := by
    rw [← Sender.isReachedBy_send_iff rfl, ← sends]
    exact .inr ⟨by decide, Nat.le_of_eq (congrArg (0 + ·) retries).symm⟩
  obtain ⟨writes, -, -⟩ := client.write_cancelled network message (.onRetry 2) server
  obtain ⟨-, made, -, called, state, stats, ending, -, counted, -⟩ :=
    (writes _ prepared).1 reached
  have replies : ((client.completedReplies network message none server).take 2).map
      (Reply.counted .samples) = [5, 7] := by with_unfolding_all decide
  refine ⟨prepared, reached, requests, made, called, ?_, stats, ending, ?_⟩
  · rw [state]
    with_unfolding_all decide
  · calc (Counter.samples.read stats).toNat
        = min Counter.limit [5, 7].sum := replies ▸ counted .samples
      _ = 12 := by decide

end Client
end RemoteWrite
