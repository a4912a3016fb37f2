import RemoteWrite.Proofs.Client.Accounting

/-!
Contract: when a write is acknowledged and still fails for want of
confirmation.

Owns:
- the endings that want confirmation, and the success that each comes from;
- that a success is the last reply, and what decides whether it is accepted;
- runs in which every response confirms something, and runs without a success;
- what speaks for an acknowledged write, and that it decides the ending.

Does not own: which responses confirm anything.
-/

namespace RemoteWrite

/-- The request was acknowledged, but nothing shows that any of it was
written. -/
def Ending.isUnconfirmed : Ending → Bool
  | failed ⟨_, .logicalAcceptance _ _⟩ => true
  | _ => false

/-- A reply that is no success stands for an error of its own. -/
theorem Reply.isUnconfirmed_error (reply : Reply) (stats : WriteStats) :
    (Ending.failed ⟨stats, reply.error⟩).isUnconfirmed = false := by
  cases reply with
  | transportFailure => rfl
  | response reply =>
      rcases Reply.error_response reply with same | same | same
      all_goals
        rw [same]
        rfl

namespace Sender

variable {σ : Type} {sender : Sender σ} {start : σ}

/-- Where one attempt was made, a success is its reply. -/
theorem verdict_of_only {index last : Nat} (reached : index ≤ last)
    (completes : last < sender.completed (index + 1))
    (success : (sender.replyAt start last).isSuccess = true) :
    (sender.attemptAt start index).verdict = .success := by
  rw [sender.eq_of_lt_completed reached completes] at success
  exact Attempt.verdict_of_isSuccess success _ _

/-- A success is the last reply, and the stats up to it decide the ending. -/
theorem Follows.acceptance_of_success {index elapsed last : Nat} {course : Course σ}
    (follows : sender.Follows start index elapsed course) (reaches : sender.Reaches index)
    (reached : index ≤ last)
    (completes : last < sender.completed (index + course.requests.length))
    (success : (sender.replyAt start last).isSuccess = true) :
    sender.Reaches (last + 1) ∧ index + course.requests.length = last + 1 ∧
      course.ending = acceptance sender.payload (sender.totalAfter start (last + 1)) := by
  induction follows with
  | @interrupted index elapsed cancels =>
      have none : sender.completed (index + 1) = index := by
        rw [completed, cancels]
        exact Nat.min_eq_right (Nat.le_succ index)
      have early : last < index := none ▸ completes
      omega
  | @succeeded index elapsed persists verdict =>
      rw [sender.eq_of_lt_completed reached completes]
      exact ⟨reaches.succ persists, rfl, rfl⟩
  -- Where the write ends otherwise, its one attempt would have to be this success.
  | refused persists verdict => cases (verdict_of_only reached completes success).symm.trans verdict
  | exhausted persists verdict spent =>
      cases (verdict_of_only reached completes success).symm.trans verdict
  | overflowed persists verdict remains waits =>
      cases (verdict_of_only reached completes success).symm.trans verdict
  | abandoned persists verdict remains waits cancels =>
      cases (verdict_of_only reached completes success).symm.trans verdict
  | @retried index elapsed error hint delay rest persists verdict remains waits goesOn follows
      inductionHypothesis =>
      have later : index + 1 ≤ last := by
        refine Nat.lt_of_le_of_ne reached fun same => ?_
        rw [← same] at success
        cases (Attempt.reply_of_retry verdict).1.symm.trans success
      have made : index + (rest.requests.length + 1) = index + 1 + rest.requests.length := by omega
      have completes : last < sender.completed (index + (rest.requests.length + 1)) := completes
      rw [made] at completes
      show _ ∧ index + (rest.requests.length + 1) = _ ∧ _
      rw [made]
      exact inductionHypothesis (reaches.succ persists) later completes

/-- Only a success as the last reply leads to a want of confirmation. -/
theorem Follows.acceptance_of_isUnconfirmed {index elapsed : Nat} {course : Course σ}
    (follows : sender.Follows start index elapsed course) (reaches : sender.Reaches index)
    (unconfirmed : course.ending.isUnconfirmed = true) :
    ∃ last, sender.Reaches (last + 1) ∧ index + course.requests.length = last + 1 ∧
      (sender.replyAt start last).isSuccess = true ∧
      course.ending = acceptance sender.payload (sender.totalAfter start (last + 1)) := by
  induction follows with
  | interrupted cancels => cases unconfirmed
  | @succeeded index elapsed completes verdict =>
      exact ⟨index, reaches.succ completes, rfl, (Attempt.reply_of_success verdict).1, rfl⟩
  | refused completes verdict =>
      rw [(Attempt.reply_of_fatal verdict).2.2, Reply.isUnconfirmed_error] at unconfirmed
      cases unconfirmed
  | exhausted completes verdict spent =>
      rw [(Attempt.reply_of_retry verdict).2.2, Reply.isUnconfirmed_error] at unconfirmed
      cases unconfirmed
  | overflowed => cases unconfirmed
  | abandoned => cases unconfirmed
  | @retried index elapsed error hint delay rest completes verdict remains waits persists follows
      inductionHypothesis =>
      obtain ⟨last, reached, made, success, ending⟩ :=
        inductionHypothesis (reaches.succ completes) unconfirmed
      refine ⟨last, reached, ?_, success, ending⟩
      show index + (rest.requests.length + 1) = last + 1
      omega

/-- A run that wants confirmation ends with a success. -/
theorem success_of_isUnconfirmed (unconfirmed : (sender.send start).ending.isUnconfirmed = true) :
    ∃ last, sender.completed (sender.send start).requests.length = last + 1 ∧
      (sender.replyAt start last).isSuccess = true ∧
      (sender.send start).ending =
        acceptance sender.payload (sender.totalAfter start (last + 1)) := by
  by_cases begins : sender.cancel = some .beforeStart
  · rw [send, if_pos begins] at unconfirmed
    cases unconfirmed
  have reaches : sender.Reaches 0 := fun _ _ => Nat.zero_le _
  obtain ⟨last, reached, made, success, ending⟩ :=
    (sender.follows_send start begins).acceptance_of_isUnconfirmed reaches unconfirmed
  rw [Nat.zero_add] at made
  exact ⟨last, made ▸ reached.completed_eq, success, ending⟩

/-- A run in which every response confirms something never wants
confirmation. -/
theorem isUnconfirmed_send
    (answered : ∀ index reply, index < sender.completed (sender.send start).requests.length →
      sender.replyAt start index = .response reply → (Reply.response reply).confirms = true) :
    (sender.send start).ending.isUnconfirmed = false := by
  rw [Bool.eq_false_iff]
  intro unconfirmed
  obtain ⟨last, made, success, ending⟩ := success_of_isUnconfirmed unconfirmed
  rw [made] at answered
  -- The success is a response, so it confirms the stats that acceptance looks at.
  have confirms : (sender.replyAt start last).confirms = true := by
    cases replied : sender.replyAt start last with
    | transportFailure =>
        rw [replied] at success
        cases success
    | response reply => exact answered last reply (Nat.lt_succ_self last) replied
  have confirmed : (sender.totalAfter start (last + 1)).confirmed = true :=
    (Attempt.confirmed_ofReply _ _ _).trans confirms
  rw [ending, acceptance_confirmed _ confirmed] at unconfirmed
  cases unconfirmed

/-! ## Acknowledgement -/

/-- A success is the last of the replies, and all of them together decide the
ending. -/
theorem acceptance_send {reply : Reply} (replied : reply ∈ sender.repliesOf start)
    (success : reply.isSuccess = true) :
    (sender.repliesOf start).getLast? = some reply ∧
      (sender.send start).requests.length = (sender.repliesOf start).length ∧
      ∃ total : WriteStats,
        (∀ counter : Counter, (counter.read total).toNat =
          min Counter.limit ((sender.repliesOf start).map (Reply.counted counter)).sum) ∧
        total.confirmed = reply.confirms ∧
        (sender.send start).ending = acceptance sender.payload total := by
  obtain ⟨last, inRange, rfl⟩ := List.mem_map.mp replied
  have completes := List.mem_range.mp inRange
  have begins : sender.cancel ≠ some .beforeStart := by
    intro cancels
    rw [send, if_pos cancels] at completes
    exact absurd (Nat.lt_of_lt_of_le completes (sender.completed_le _)) (Nat.not_lt_zero _)
  have reaches : sender.Reaches 0 := fun _ _ => Nat.zero_le _
  obtain ⟨reached, made, ending⟩ :=
    (sender.follows_send start begins).acceptance_of_success reaches (Nat.zero_le last)
      (by rwa [Nat.zero_add]) success
  rw [Nat.zero_add] at made
  have count : (sender.repliesOf start).length = last + 1 := by
    rw [length_repliesOf, made, reached.completed_eq]
  have replies : sender.repliesOf start =
      (List.range (last + 1)).map (sender.replyAt start) := by
    rw [repliesOf, made, reached.completed_eq]
  have final := getLast?_repliesOf count
  refine ⟨final, made.trans count.symm, sender.totalAfter start (last + 1), fun counter => ?_, ?_,
    ending⟩
  · rw [replies, toNat_read_totalAfter, List.map_map]
    rfl
  · rw [confirmed_totalAfter, ← replies, final]
    rfl

/-- A run without a success never wants confirmation. -/
theorem isUnconfirmed_send_of_failures
    (failures : ∀ reply ∈ sender.repliesOf start, reply.isSuccess = false) :
    (sender.send start).ending.isUnconfirmed = false := by
  rw [Bool.eq_false_iff]
  intro unconfirmed
  obtain ⟨last, made, success, _⟩ := success_of_isUnconfirmed unconfirmed
  have replied : sender.replyAt start last ∈ sender.repliesOf start := by
    rw [repliesOf, made]
    exact List.mem_map_of_mem (List.mem_range.mpr (Nat.lt_succ_self last))
  cases (failures _ replied).symm.trans success

end Sender

/-! ## Writes -/

/-- What speaks for an acknowledged write, given the replies to its attempts,
the last of which is the success. A message without symbols needs nothing, and
for one with symbols there is a stats header that is not empty, a response that
counts something, or the knowledge that the message is empty. -/
def WriteMessage.AcceptedWith (message : WriteMessage) (replies : List Reply) (last : Reply) :
    Prop :=
  message.symbols = none ∨ last.confirms = true ∨
    (∃ reply ∈ replies, ∃ counter : Counter, reply.counted counter ≠ 0) ∨
    ∃ baseline, message.baseline = some baseline ∧ ∀ counter : Counter, counter.read baseline = 0

theorem WriteMessage.protocol_ne_v2_iff {message : WriteMessage}
    (standard : message.ownProtocol = none) : message.protocol ≠ .v2 ↔ message.symbols = none := by
  rw [protocol, standard]
  cases message.symbols with
  | none => simp only [ne_eq, reduceCtorEq, not_false_eq_true]
  | some symbols => simp only [ne_eq, not_true_eq_false, reduceCtorEq]

/-- The accumulated stats and the message show what speaks for the write. -/
theorem WriteMessage.acceptedWith_iff {message : WriteMessage} {replies : List Reply}
    {last : Reply} {total : WriteStats} (standard : message.ownProtocol = none)
    (summed : ∀ counter : Counter, (counter.read total).toNat =
      min Counter.limit (replies.map (Reply.counted counter)).sum)
    (flagged : total.confirmed = last.confirms) :
    message.AcceptedWith replies last ↔
      message.protocol ≠ .v2 ∨ total.confirmed = true ∨ total.noDataWritten = false ∨
        message.baseline.any WriteStats.noDataWritten = true := by
  have counts : total.noDataWritten = false ↔
      ∃ reply ∈ replies, ∃ counter : Counter, reply.counted counter ≠ 0 := by
    have nothing (counter : Counter) : counter.read total = 0 ↔
        ∀ reply ∈ replies, reply.counted counter = 0 := by
      rw [Counter.read_eq_zero_iff (summed counter), List.forall_mem_map]
    rw [← Bool.not_eq_true, WriteStats.noDataWritten_iff]
    simp only [nothing, Classical.not_forall]
    constructor
    · rintro ⟨counter, reply, present, counts⟩
      exact ⟨reply, present, counter, counts⟩
    · rintro ⟨reply, present, counter, counts⟩
      exact ⟨counter, reply, present, counts⟩
  have empty : message.baseline.any WriteStats.noDataWritten = true ↔
      ∃ baseline, message.baseline = some baseline ∧
        ∀ counter : Counter, counter.read baseline = 0 := by
    simp only [Option.any_eq_true, WriteStats.noDataWritten_iff]
  rw [AcceptedWith, protocol_ne_v2_iff standard, flagged, counts, empty]

/-- A write that is acknowledged makes no further request. It succeeds if
something speaks for it, and otherwise fails for want of confirmation, with
what the message holds and what all attempts together wrote. A write that is
not acknowledged never fails like this. -/
theorem Client.write_acknowledged {σ : Type} (client : Client) (network : Network σ)
    (message : WriteMessage) (cancel : Option CancelPoint) (state : σ)
    (standard : message.ownProtocol = none) :
    let replies := client.completedReplies network message cancel state
    let course := (client.write network message cancel state).1
    (∀ reply ∈ replies, reply.isSuccess = true →
      replies.getLast? = some reply ∧ course.requests.length = replies.length ∧
        ∃ total : WriteStats,
          (∀ counter : Counter, (counter.read total).toNat =
            min Counter.limit (replies.map (Reply.counted counter)).sum) ∧
          total.confirmed = reply.confirms ∧
          (message.AcceptedWith replies reply → course.ending = .accepted total) ∧
          (¬ message.AcceptedWith replies reply →
            course.ending = .failed ⟨total, .logicalAcceptance message.baseline total⟩)) ∧
      ((∀ reply ∈ replies, reply.isSuccess = false) → course.ending.isUnconfirmed = false) := by
  intro replies course
  cases prepared : (client.prepare message).1 with
  | error error =>
      have none : replies = [] :=
        completedReplies_of_prepare_error network cancel state prepared
      have ends : course.ending = .failed ⟨{}, error⟩ := by
        simp only [course, client.write_of_prepare_error network prepared]
      rw [none, ends]
      refine ⟨nofun, fun _ => ?_⟩
      rcases error_of_prepare prepared with ⟨cause, rfl⟩ | ⟨cause, rfl⟩ <;> rfl
  | ok payload =>
      have sends : course = (client.sender network payload cancel).send state :=
        client.write_of_prepare network prepared cancel state
      have same : replies = (client.sender network payload cancel).repliesOf state :=
        completedReplies_of_prepare network cancel state prepared
      rw [sends, same]
      refine ⟨fun reply replied success => ?_, Sender.isUnconfirmed_send_of_failures⟩
      obtain ⟨last, made, total, summed, flagged, ending⟩ := Sender.acceptance_send replied success
      obtain ⟨plain, compressed, _, _, carried⟩ := compress_of_prepare prepared
      have evident := message.acceptedWith_iff standard summed flagged
      have decided : (client.sender network payload cancel).payload =
          ⟨message.protocol, compressed.bytes, message.baseline⟩ := carried
      rw [Sender.acceptance_eq, decided] at ending
      refine ⟨last, made, total, summed, flagged, fun accepted => ?_, fun unproven => ?_⟩
      · exact ending.trans (if_pos (evident.mp accepted))
      · exact ending.trans (if_neg (mt evident.mpr unproven))

/-- A failed attempt that confirms that nothing was written does not speak for
the success after it, which confirms nothing. -/
theorem Client.write_acknowledged_unconfirmed :
    let client : Client := { url := ⟨"http", none, .segments ["write"], none, none⟩, config := {} }
    let first : ScriptedResponse :=
      { status := .internalServerError
        headers := .ofList [(WriteStats.samplesHeaderName, Text.utf8 "0")] }
    let last : ScriptedResponse := { status := .noContent }
    let server : ScriptedServer := { queue := [first, last] }
    let message : WriteMessage :=
      { typeName := "series", structural := some { appended := [] }, symbols := some [""]
        baseline := some { samples := 1 } }
    let course := (client.write (ScriptedServer.network .zero) message none server).1
    message.ownProtocol = none ∧ course.requests.length = 2 ∧
      ∃ total : WriteStats, (∀ counter : Counter, counter.read total = 0) ∧
        total.confirmed = false ∧
        course.ending =
          .failed ⟨total, .logicalAcceptance (some { samples := 1 }) total⟩ := by
  intro client first last server message course
  have replies : client.completedReplies (ScriptedServer.network .zero) message none server =
      [.response first.reply, .response last.reply] := by with_unfolding_all decide
  have counts (counter : Counter) :
      ∀ reply ∈ [Reply.response first.reply, .response last.reply],
        reply.counted counter = 0 := by
    cases counter <;> with_unfolding_all decide
  have unproven : ¬ message.AcceptedWith [.response first.reply, .response last.reply]
      (.response last.reply) := by
    rintro (absent | confirms | ⟨reply, replied, counter, counted⟩ | ⟨baseline, known, empty⟩)
    · cases absent
    · cases confirms
    · exact counted (counts counter reply replied)
    · cases known
      exact absurd (empty .samples) (by decide)
  obtain ⟨acknowledged, _⟩ :=
    client.write_acknowledged (ScriptedServer.network .zero) message none server rfl
  rw [replies] at acknowledged
  obtain ⟨_, made, total, summed, flagged, _, unconfirmed⟩ :=
    acknowledged (.response last.reply) (List.mem_cons_of_mem _ List.mem_cons_self) (by decide)
  refine ⟨rfl, made, total, fun counter => ?_, flagged, unconfirmed unproven⟩
  rw [Counter.read_eq_zero_iff (summed counter), List.forall_mem_map]
  exact counts counter

end RemoteWrite
