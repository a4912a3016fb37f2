import RemoteWrite.Proofs.Delivery

/-!
Contract: clients read what receivers report, and take it for a confirmation.

Owns:
- the stats that a request leaves with a receiver;
- the responses that receivers give, as clients see them;
- that the stats of an answer are read as they were left;
- that writes which receivers answer never want confirmation.

Does not own: which requests reach a storage, or when a write succeeds.
-/

namespace RemoteWrite

variable {σ τ : Type}

/-! ## Answers -/

/-- The stats that the storage has left when a request is answered. A request
that never reaches it leaves none. -/
def Receiver.leftStats (receiver : Receiver σ) (state : σ) (incoming : IncomingRequest) :
    WriteStats :=
  match (receiver.accept incoming).1 with
  | .error _ => {}
  | .ok (protocol, payload) =>
    (receiver.storage.store state protocol payload).1.response.stats.getD {}

/-- The stats of every answer can be read, and they are those that were left. -/
theorem Receiver.ofHeaders_handle (receiver : Receiver σ) (state : σ)
    (incoming : IncomingRequest) :
    match receiver.handle? state incoming with
    | none => receiver.config.Overflows incoming
    | some handled =>
      WriteStats.ofHeaders handled.response.headers =
        .ok (receiver.leftStats state incoming).confirm := by
  rcases receiver.handle?_cases state incoming with ⟨overflows, unanswered⟩ | ⟨-, answered⟩
  · rw [unanswered]
    exact overflows
  rw [answered]
  show WriteStats.ofHeaders (receiver.handle state incoming).response.headers = _
  unfold leftStats
  cases outcome : receiver.accept incoming with
  | mk admitted events =>
      cases admitted with
      | error rejection => rw [(handle_of_reject outcome state).1, ofHeaders_rejected]
      | ok call => rw [(handle_of_accept outcome state).1, ofHeaders_stored]

/-- The reply is what some receiver answered to some request. -/
def ServerReply.IsAnswer (reply : ServerReply) : Prop :=
  ∃ (σ : Type) (receiver : Receiver σ) (state : σ) (incoming : IncomingRequest)
    (handled : Handled σ), receiver.handle? state incoming = some handled ∧
      reply.Delivers handled.response

/-- On the loopback its receiver alone responds. -/
theorem Receiver.isAnswer_of_exchange (receiver : Receiver σ) {now : Time.Duration} {state : σ}
    {request : OutgoingRequest} {reply : ServerReply}
    (replied : ((receiver.network now).exchange state request).1 = .response reply) :
    reply.IsAnswer := by
  cases answered : receiver.handle? state request.incoming with
  | none =>
      simp only [network, answered] at replied
      cases replied
  | some handled =>
      rw [receiver.exchange_network now answered] at replied
      cases replied
      exact ⟨σ, receiver, state, request.incoming, handled, answered, rfl, fun _ => rfl⟩

/-- Answers of receivers always confirm. -/
theorem ServerReply.IsAnswer.confirms {reply : ServerReply} (answer : reply.IsAnswer) :
    (Reply.response reply).confirms = true := by
  obtain ⟨σ, receiver, state, incoming, handled, answered, delivers⟩ := answer
  have reported := receiver.ofHeaders_handle state incoming
  rw [answered] at reported
  show Counter.all.any (Counter.reported reply.headers) = true
  rw [← WriteStats.confirmed_ofValidHeaders, WriteStats.ofValidHeaders,
    WriteStats.ofHeaders_congr delivers.stats, reported]
  rfl

/-! ## Writes -/

namespace Client

/-- Where receivers alone respond, so they do in every write. -/
theorem isAnswer_of_network {network : Network τ}
    (answers : ∀ state request reply,
      (network.exchange state request).1 = .response reply → reply.IsAnswer)
    (client : Client) (message : WriteMessage) (cancel : Option CancelPoint) (state : τ)
    {reply : ServerReply}
    (replied : .response reply ∈ client.completedReplies network message cancel state) :
    reply.IsAnswer := by
  unfold completedReplies at replied
  split at replied
  · cases replied
  · obtain ⟨index, _, reached⟩ := List.mem_map.mp replied
    unfold Sender.replyAt Network.post at reached
    split at reached
    · exact answers _ _ reply reached
    · cases reached

/-- A client reads from every answer of a receiver exactly the stats that were
left there, confirmed; only where there can be no buffer for the body is there
no answer. So a write, of any message, whose responses all come from receivers
never fails for want of confirmation, even if none of them reports any data. -/
theorem write_answered (receiver : Receiver σ) (world : σ) (incoming : IncomingRequest)
    (client : Client) (network : Network τ) (message : WriteMessage)
    (cancel : Option CancelPoint) (state : τ) :
    (match receiver.handle? world incoming with
      | none => receiver.config.Overflows incoming
      | some handled =>
        WriteStats.ofHeaders handled.response.headers =
          .ok (receiver.leftStats world incoming).confirm) ∧
      ((∀ reply, .response reply ∈ client.completedReplies network message cancel state →
          reply.IsAnswer) →
        (client.write network message cancel state).1.ending.isUnconfirmed = false) := by
  refine ⟨receiver.ofHeaders_handle world incoming, fun answered => ?_⟩
  unfold completedReplies at answered
  cases prepared : (client.prepare message).1 with
  | error error =>
      rw [client.write_of_prepare_error network prepared]
      rcases error_of_prepare prepared with ⟨cause, rfl⟩ | ⟨cause, rfl⟩
      · rfl
      · rfl
  | ok payload =>
      rw [prepared] at answered
      rw [write_of_prepare network prepared]
      refine Sender.isUnconfirmed_send fun index reply completed replied => ?_
      exact (answered reply
        (List.mem_map.mpr ⟨index, List.mem_range.mpr completed, replied⟩)).confirms

/-- A receiver whose storage reports that it wrote nothing, and appends a stats
header that is no counter. Requests of another type are rejected, and the
write of a sample is accepted. -/
theorem write_answered_zero :
    let storage : DecodedStorage Unit := ⟨fun _ _ =>
      ({ edits := [.setStats {}, .appendHeader WriteStats.samplesHeaderName (Text.utf8 "many")] },
        ())⟩
    let receiver := Receiver.new storage.decoding
    let incoming : IncomingRequest :=
      ⟨"POST", "/write", .ofList [("Content-Type", Text.utf8 "text/plain")], []⟩
    let client : Client :=
      { url := ⟨"http", none, .segments ["write"], none, none⟩, config := {} }
    let message := DecodedRequest.toMessage
      (.v2 { symbols := [""], timeseries := [{ samples := [{ value := .zero, timestamp := 1 }] }] })
    let network := receiver.network .zero
    let course := (client.write network message none ()).1
    (∃ handled, receiver.handle? () incoming = some handled ∧
        WriteStats.ofHeaders handled.response.headers = .ok ⟨0, 0, 0, true⟩) ∧
      message.symbols = some [""] ∧ message.baseline = some ⟨1, 0, 0, false⟩ ∧
      course.ending.isUnconfirmed = false ∧ course.ending = .accepted ⟨0, 0, 0, true⟩ := by
  intro storage receiver incoming client message network course
  have answers : ∀ state request reply,
      (network.exchange state request).1 = .response reply → reply.IsAnswer := by
    exact fun state request reply => receiver.isAnswer_of_exchange
  have answered : receiver.handle? () incoming = some (receiver.handle () incoming) := rfl
  obtain ⟨reported, confirmed⟩ :=
    client.write_answered receiver () incoming network message none ()
  rw [answered] at reported
  refine ⟨⟨_, answered, reported.trans rfl⟩, rfl, rfl, confirmed fun reply => ?_, ?_⟩
  · exact isAnswer_of_network answers client message none ()
  · with_unfolding_all decide

end Client
end RemoteWrite
