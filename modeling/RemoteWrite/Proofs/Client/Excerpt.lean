import RemoteWrite.Proofs.Client.Accounting
import RemoteWrite.Proofs.Text.Lossy

/-!
Contract: what errors quote of the bodies of responses.

The limit counts bytes of the body. A character that it divides is replaced,
so what an error quotes may be longer than the limit, and may end in a
character that the body does not have there.

Owns:
- the errors that a write shows, and the body texts that they carry;
- the reply that such an error comes from;
- how long a body text can be, and when it is the front of the body.

Does not own: what else errors say.
-/

namespace RemoteWrite

/-- The text of a response body that an error carries. -/
def WriteError.body? : WriteError → Option String
  | serverError _ body => some body
  | rateLimited body => some body
  | refused _ body => some body
  | _ => none

/-- The error that an ending hands to the caller. -/
def Ending.error? : Ending → Option WriteError
  | .failed failure => some failure.error
  | _ => none

/-- The errors that a write shows: one for every retry, and that of a
failure. -/
def Course.errors {σ : Type} (course : Course σ) : List WriteError :=
  course.retries.map Retry.error ++ course.ending.error?.toList

/-! ## Excerpts -/

/-- Each byte of an excerpt leads to at most three bytes of text. -/
theorem utf8ByteSize_bodyExcerpt_le (body : Bytes) :
    (bodyExcerpt body).utf8ByteSize ≤ 3 * min maxErrorBody body.length := by
  rw [← List.length_take]
  exact Text.utf8ByteSize_lossy_le _

/-- Only responses are quoted. -/
theorem Reply.response_of_body? {reply : Reply} {text : String}
    (carries : reply.error.body? = some text) :
    ∃ response, reply = .response response ∧ text = bodyExcerpt response.body := by
  cases reply with
  | transportFailure => cases carries
  | response response =>
      refine ⟨response, rfl, ?_⟩
      rcases Reply.error_response response with same | same | same
      all_goals
        rw [same] at carries
        exact (Option.some.inj carries).symm

/-! ## Runs -/

namespace Sender

variable {σ : Type} {sender : Sender σ} {start : σ}

/-- What fails to be accepted quotes no body. -/
theorem body?_of_acceptance {payload : Payload} {stats : WriteStats} {error : WriteError}
    (ends : (acceptance payload stats).error? = some error) : error.body? = none := by
  rw [acceptance_eq] at ends
  split at ends
  · cases ends
  · cases ends
    rfl

/-- An error with a body text is that of the reply to an attempt that
completed. -/
theorem Follows.reply_of_errors {index elapsed : Nat} {course : Course σ}
    (follows : sender.Follows start index elapsed course) (reaches : sender.Reaches index)
    {error : WriteError} {text : String} (shown : error ∈ course.errors)
    (carries : error.body? = some text) :
    ∃ number < sender.completed (index + course.requests.length),
      error = (sender.replyAt start number).error := by
  induction follows with
  | interrupted cancels =>
      cases List.mem_singleton.mp shown
      cases carries
  | succeeded completes verdict =>
      have none := body?_of_acceptance (Option.mem_toList.mp shown)
      cases carries.symm.trans none
  | @refused index elapsed other completes verdict =>
      cases List.mem_singleton.mp shown
      exact ⟨index, (reaches.succ completes).le_completed (Nat.le_refl _),
        (Attempt.reply_of_fatal verdict).2.2⟩
  | @exhausted index elapsed other hint completes verdict spent =>
      cases List.mem_singleton.mp shown
      exact ⟨index, (reaches.succ completes).le_completed (Nat.le_refl _),
        (Attempt.reply_of_retry verdict).2.2⟩
  | overflowed => cases shown
  | @abandoned index elapsed other hint delay completes verdict remains waits cancels =>
      rcases List.mem_cons.mp shown with rfl | later
      · exact ⟨index, (reaches.succ completes).le_completed (Nat.le_refl _),
          (Attempt.reply_of_retry verdict).2.2⟩
      · cases List.mem_singleton.mp later
        cases carries
  | @retried index elapsed other hint delay rest completes verdict remains waits persists follows
      inductionHypothesis =>
      have made : index + (rest.requests.length + 1) = index + 1 + rest.requests.length := by omega
      show ∃ number < sender.completed (index + (rest.requests.length + 1)), _
      rw [made]
      rcases List.mem_cons.mp shown with rfl | later
      · exact ⟨index, (reaches.succ completes).le_completed (Nat.le_add_right _ _),
          (Attempt.reply_of_retry verdict).2.2⟩
      · exact inductionHypothesis (reaches.succ completes) later

theorem reply_of_errors_send {error : WriteError} {text : String}
    (shown : error ∈ (sender.send start).errors) (carries : error.body? = some text) :
    ∃ reply ∈ sender.repliesOf start, error = reply.error := by
  by_cases begins : sender.cancel = some .beforeStart
  · rw [send, if_pos begins] at shown
    cases List.mem_singleton.mp shown
    cases carries
  · obtain ⟨number, completed, same⟩ := (sender.follows_send start begins).reply_of_errors
      (fun _ _ => Nat.zero_le _) shown carries
    rw [Nat.zero_add] at completed
    exact ⟨_, List.mem_map_of_mem (List.mem_range.mpr completed), same⟩

end Sender

/-! ## Writes -/

namespace Client

variable {σ : Type} {client : Client} {network : Network σ} {message : WriteMessage}
  {cancel : Option CancelPoint} {state : σ}

/-- Errors with a body text stand for replies of the write. -/
theorem reply_of_errors_write {error : WriteError} {text : String}
    (shown : error ∈ (client.write network message cancel state).1.errors)
    (carries : error.body? = some text) :
    ∃ reply ∈ client.completedReplies network message cancel state, error = reply.error := by
  cases prepared : (client.prepare message).1 with
  | error cause =>
      rw [write_of_prepare_error network prepared] at shown
      cases List.mem_singleton.mp shown
      rcases error_of_prepare prepared with ⟨_, rfl⟩ | ⟨_, rfl⟩
      · cases carries
      · cases carries
  | ok payload =>
      rw [write_of_prepare network prepared] at shown
      rw [completedReplies_of_prepare network cancel state prepared]
      exact Sender.reply_of_errors_send shown carries

/-- An error that quotes a body stands for a response of the write, and quotes
no more than the first bytes of its body. The text has up to three bytes for
each of them. It stays within the limit and is the front of the body exactly if
the bytes up to the limit are text. If the body is text, everything in front of
the limit is shown as it is, with a replacement for a character that the limit
divides. -/
theorem write_quotes {error : WriteError} {text : String}
    (shown : error ∈ (client.write network message cancel state).1.errors)
    (carries : error.body? = some text) :
    ∃ reply : ServerReply,
      .response reply ∈ client.completedReplies network message cancel state ∧
      error = Reply.error (.response reply) ∧
      text.utf8ByteSize ≤ 3 * min maxErrorBody reply.body.length ∧
      (text.utf8ByteSize ≤ maxErrorBody ∧ Text.utf8 text <+: reply.body ↔
        ∃ front, reply.body.take maxErrorBody = Text.utf8 front) ∧
      ∀ whole, reply.body = Text.utf8 whole →
        Text.IsTruncated maxErrorBody whole text ∧ text.utf8ByteSize ≤ maxErrorBody + 2 := by
  obtain ⟨reply, completed, same⟩ := reply_of_errors_write shown carries
  obtain ⟨response, rfl, rfl⟩ := Reply.response_of_body? (same ▸ carries)
  refine ⟨response, completed, same, utf8ByteSize_bodyExcerpt_le _,
    Text.lossy_take_isPrefix_iff _ _, ?_⟩
  intro whole isText
  have truncated := Text.isTruncated_lossy_take whole maxErrorBody
  rw [bodyExcerpt, isText]
  exact ⟨truncated, truncated.utf8ByteSize_le⟩

/-- A failure whose body breaks off inside a character, and a retry that
succeeds. -/
theorem write_quotes_brokenOff :
    let client : Client :=
      { url := ⟨"http", none, .segments ["write"], none, none⟩, config := {} }
    let message : WriteMessage := { typeName := "nothing", structural := some { appended := [] } }
    let failure : ScriptedResponse :=
      { status := .internalServerError, body := [0x61, 0xE2, 0x82] }
    let server : ScriptedServer := { queue := [failure, {}] }
    let network := ScriptedServer.network .zero
    let text := "a\uFFFD"
    let error := WriteError.serverError .internalServerError text
    error ∈ (client.write network message none server).1.errors ∧ error.body? = some text ∧
      ∃ reply : ServerReply,
        .response reply ∈ client.completedReplies network message none server ∧
        error = Reply.error (.response reply) ∧
        text.utf8ByteSize ≤ 3 * min maxErrorBody reply.body.length ∧
        (text.utf8ByteSize ≤ maxErrorBody ∧ Text.utf8 text <+: reply.body ↔
          ∃ front, reply.body.take maxErrorBody = Text.utf8 front) ∧
        ∀ whole, reply.body = Text.utf8 whole →
          Text.IsTruncated maxErrorBody whole text ∧ text.utf8ByteSize ≤ maxErrorBody + 2 := by
  intro client message failure server network text error
  have shown : error ∈ (client.write network message none server).1.errors := by
    with_unfolding_all decide
  exact ⟨shown, rfl, write_quotes shown rfl⟩

/-- A body of 342 characters with three bytes each. The limit divides the last
one, so the error quotes two bytes more than the limit, and no front of the
body. -/
theorem write_quotes_divided :
    let client : Client :=
      { url := ⟨"http", none, .segments ["write"], none, none⟩, config := {} }
    let message : WriteMessage := { typeName := "nothing", structural := some { appended := [] } }
    let whole := String.ofList (List.replicate 341 '€') ++ .singleton '€'
    let text := String.ofList (List.replicate 341 '€') ++ .singleton Text.replacement
    let refusal : ScriptedResponse := { status := .badRequest, body := Text.utf8 whole }
    let server : ScriptedServer := { queue := [refusal] }
    let course := (client.write (ScriptedServer.network .zero) message none server).1
    course.ending = .failed ⟨{}, .refused .badRequest text⟩ ∧
      text.utf8ByteSize = maxErrorBody + 2 ∧ ¬Text.utf8 text <+: Text.utf8 whole := by
  intro client message whole text refusal server course
  have ends (body : Bytes) : (client.write (ScriptedServer.network .zero) message none
      { queue := [{ status := .badRequest, body }] }).1.ending =
        .failed ⟨{}, .refused .badRequest (bodyExcerpt body)⟩ := by
    with_unfolding_all rfl
  have front : (String.ofList (List.replicate 341 '€')).utf8ByteSize = 1023 :=
    Text.utf8ByteSize_replicate '€' 341
  have quoted : bodyExcerpt (Text.utf8 whole) = text := by
    have divided := Text.lossy_take_divided (String.ofList (List.replicate 341 '€'))
      (c := '€') (by decide : 0 < 1) (by decide)
    rwa [front] at divided
  have long (c : Char) : (String.ofList (List.replicate 341 '€') ++ .singleton c).utf8ByteSize =
      1023 + c.utf8Size := by
    rw [String.utf8ByteSize_append, String.utf8ByteSize_singleton, front]
  refine ⟨?_, long Text.replacement, fun inFront => ?_⟩
  · rw [← quoted]
    exact ends (Text.utf8 whole)
  · have same : Text.utf8 text = Text.utf8 whole := by
      refine inFront.eq_of_length ?_
      rw [Text.length_utf8, Text.length_utf8, long, long]
      rfl
    rw [Text.utf8_inj, String.append_right_inj, String.singleton_inj] at same
    exact absurd same (by decide)

end Client
end RemoteWrite
