import RemoteWrite.Proofs.Client.Acceptance
import RemoteWrite.Proofs.Client.Attempt
import RemoteWrite.Proofs.Client.Course
import RemoteWrite.Proofs.Client.Write
import RemoteWrite.Proofs.Encoder
import RemoteWrite.Proofs.Receiver.Admission
import RemoteWrite.Proofs.Snappy.Size
import RemoteWrite.Proofs.Stats.Contents
import RemoteWrite.Simulation.Loopback

/-!
Contract: a write that a receiver admits is stored once and confirmed.

The network may be any that carries requests and answers unchanged, the client
may have made any writes before, and the storage may be any that leaves the
stats to the adapter.

Owns:
- networks that connect clients with a receiver, and the loopback as one;
- the delivery of a request from a client to a storage, and of the stats back.

Does not own: writes that are rejected, fail, or are cancelled.
-/

namespace RemoteWrite

variable {σ τ : Type}

/-! ## Networks -/

/-- The answer arrives as it was given: with its status and its stats. -/
structure ServerReply.Delivers (reply : ServerReply) (response : ServerResponse) : Prop where
  status : reply.status = response.status
  stats : ∀ counter : Counter,
    reply.headers.values counter.headerName = response.headers.values counter.headerName

/-- The network carries every request that HTTP can express to the receiver,
and its answer back, if there is one. The state of the receiver is a part of
the world. -/
def Network.Connects (network : Network τ) (receiver : Receiver σ) (view : τ → σ) : Prop :=
  ∀ state request, request.isSendable = true →
    request.headers.values Http.contentLengthName = [] →
    ∃ incoming, incoming.Delivers request ∧
      ∀ handled, receiver.handle? (view state) incoming = some handled →
        ∃ reply, reply.Delivers handled.response ∧
          (network.exchange state request).1 = .response reply ∧
          view (network.exchange state request).2 = handled.state

/-- An answer of the receiver arrives on the loopback. -/
theorem Receiver.exchange_network (receiver : Receiver σ) (now : Time.Duration) {state : σ}
    {request : OutgoingRequest} {handled : Handled σ}
    (answered : receiver.handle? state request.incoming = some handled) :
    (receiver.network now).exchange state request =
      (.response handled.response.reply, handled.state) := by
  simp only [network, answered]

/-- The loopback connects clients with its receiver. -/
theorem Receiver.network_connects (receiver : Receiver σ) (now : Time.Duration) :
    (receiver.network now).Connects receiver id := by
  intro state request sendable unannounced
  refine ⟨request.incoming, ⟨?_, ?_, ?_, ?_⟩, ?_⟩
  · rw [OutgoingRequest.incoming, Http.Headers.values_append, if_neg (by decide), List.append_nil]
  · rw [OutgoingRequest.incoming, Http.Headers.values_append, if_neg (by decide), List.append_nil]
  -- The only announcement of a length is the one that the loopback adds.
  · intro length announced
    rw [OutgoingRequest.incoming, contentLength?, Http.Headers.text?, Http.Headers.first?,
      Http.Headers.values_append, unannounced, if_pos rfl, List.nil_append, List.head?_cons,
      Option.bind_some, Text.Numeral.visible?_render, Option.bind_some, Text.Numeral.render,
      String.toList_ofList, Text.Numeral.parse?_digits] at announced
    exact (Option.some.inj (Option.ite_none_right_eq_some.mp announced).2.symm)
  · exact ⟨[request.body], rfl, List.append_nil _⟩
  · intro handled answered
    rw [id_eq] at answered
    rw [receiver.exchange_network now answered]
    exact ⟨handled.response.reply, ⟨rfl, fun counter => rfl⟩, rfl, rfl⟩

/-! ## Receivers -/

/-- A receiver answers the request that it is sent. It stores it once, and
confirms all of it. -/
theorem Receiver.handle_delivered {storage : DecodedStorage σ} (quiet : storage.Quiet)
    {config : ReceiverConfig} {request : DecodedRequest} {incoming : IncomingRequest}
    {outgoing : OutgoingRequest} (delivers : incoming.Delivers outgoing)
    (contentType : outgoing.headers.values Http.contentTypeName =
      [Text.utf8 request.protocol.contentType])
    (contentEncoding : outgoing.headers.values Http.contentEncodingName =
      [Text.utf8 Compression.snappy.name])
    (body : outgoing.body = Snappy.write request.encode)
    (accepted : config.accepts request.protocol = true)
    (bodyFits : outgoing.body.length ≤ config.maxBodySize)
    (plainFits : request.encodedSize ≤ config.maxDecompressedSize)
    (announceable : request.encodedSize ≤ Snappy.maxLength) (state : σ) :
    ∃ handled, (Receiver.new storage.decoding config).handle? state incoming = some handled ∧
      handled.response.status.isSuccess = true ∧
      WriteStats.ofHeaders handled.response.headers =
        .ok (WriteStats.ofRequest request.canonical).confirm ∧
      handled.state = (storage.store state request.canonical).2 := by
  have fits : request.encodedSize < 2 ^ 64 :=
    Nat.lt_of_le_of_lt announceable (by decide)
  have length := DecodedRequest.length_encode fits
  have room : outgoing.body.length ≤ Buffer.maxCapacity := by
    have worst : (Snappy.write request.encode).length ≤ Snappy.worstCase request.encode.length :=
      Snappy.length_write_le (length ▸ announceable)
    rw [← body, length, Snappy.worstCase] at worst
    rw [Snappy.maxLength] at announceable
    rw [Buffer.maxCapacity]
    omega
  have answered := (Receiver.new storage.decoding config).handle?_eq_some
    (delivers.not_overflows config room) state
  have admitted := accept_of_admits storage.decoding <| delivers.admits contentType
    contentEncoding body accepted bodyFits (by rwa [length]) (by rwa [length])
  obtain ⟨answers, stores⟩ := handle_of_accept (Prod.ext admitted rfl) state
  obtain ⟨⟨succeeds, reported⟩, keeps⟩ :=
    DecodedStorage.store_decoding quiet (DecodedRequest.decode_encode fits) state
  refine ⟨_, answered, ?_, ?_, stores.trans keeps⟩
  · rw [answers]
    exact isSuccess_stored succeeds
  · rw [answers, ofHeaders_stored]
    exact congrArg (fun stats => Except.ok (Option.getD stats {}).confirm) reported

/-! ## Clients -/

/-- An attempt whose answer reports confirmed stats and a success. -/
theorem Attempt.ofReply_delivered {reply : ServerReply} {response : ServerResponse}
    (delivers : reply.Delivers response) (success : response.status.isSuccess = true)
    {stats : WriteStats} (reported : WriteStats.ofHeaders response.headers = .ok stats)
    (config : ClientConfig) (now : Time.Duration) :
    (ofReply config now (.response reply)).verdict = .success ∧
      (ofReply config now (.response reply)).stats = stats := by
  constructor
  · rw [← delivers.status] at success
    rw [ofReply]
    simp only [if_pos success]
  · rw [stats_ofReply, WriteStats.ofValidHeaders, WriteStats.ofHeaders_congr delivers.stats,
      reported]

theorem DecodedRequest.protocol_toMessage (request : DecodedRequest) :
    request.toMessage.protocol = request.protocol := by
  cases request with
  | v1 request => rfl
  | v2 request => rfl

/-- The payload of a request is delivered with the first attempt. -/
theorem Sender.send_delivered (sender : Sender τ) (persists : sender.cancel = none)
    {storage : DecodedStorage σ} (quiet : storage.Quiet) {config : ReceiverConfig}
    {view : τ → σ} (connects : sender.network.Connects (.new storage.decoding config) view)
    (reachable : sender.url.scheme = "http" ∨ sender.url.scheme = "https")
    (named : isHeaderValue (Text.utf8 sender.config.userAgent) = true)
    {request : DecodedRequest} (protocol : sender.payload.protocol = request.protocol)
    (body : sender.payload.body = Snappy.write request.encode)
    (accepted : config.accepts request.protocol = true)
    (bodyFits : sender.payload.body.length ≤ config.maxBodySize)
    (plainFits : request.encodedSize ≤ config.maxDecompressedSize)
    (announceable : request.encodedSize ≤ Snappy.maxLength) (state : τ) :
    (sender.send state).ending = .accepted (WriteStats.ofRequest request.canonical).confirm ∧
      view (sender.send state).state = (storage.store (view state) request.canonical).2 := by
  have carries := Attempt.carries_request sender.url sender.config sender.payload 0
  have sendable := Attempt.isSendable_request sender.payload reachable named
  obtain ⟨incoming, delivers, answered⟩ := connects state (sender.requestAt 0) sendable
    (Attempt.values_contentLength _ _ _)
  have posted : sender.network.post state (sender.requestAt 0) =
      sender.network.exchange state (sender.requestAt 0) := if_pos sendable
  have encoding : sender.config.compression.name = Compression.snappy.name := by
    cases sender.config.compression
    rfl
  -- The receiver's half: what it makes of the request.
  obtain ⟨handled, handles, success, reported, keeps⟩ := Receiver.handle_delivered quiet delivers
    (protocol ▸ carries.contentType) (encoding ▸ carries.contentEncoding) body accepted bodyFits
    plainFits announceable (view state)
  obtain ⟨reply, answers, replied, reached⟩ := answered handled handles
  -- The client's half: what it makes of the answer.
  obtain ⟨verdict, stats⟩ := Attempt.ofReply_delivered answers success reported sender.config
    (sender.network.now (sender.stateAfter state 1))
  have replyAt : sender.replyAt state 0 = .response reply := by
    rw [Sender.replyAt, ← replied, ← posted]
    rfl
  have stateAfter : sender.stateAfter state 1 =
      (sender.network.exchange state (sender.requestAt 0)).2 := congrArg Prod.snd posted
  rw [← replyAt] at verdict stats
  rw [send_of_success sender state persists verdict]
  refine ⟨?_, ?_⟩
  · show acceptance sender.payload (WriteStats.add {} _) = _
    rw [WriteStats.empty_add]
    exact (congrArg (acceptance sender.payload) stats).trans (acceptance_confirmed _ rfl)
  · show view (sender.stateAfter state 1) = _
    rw [stateAfter, reached, keeps]

/-- Encoding and compression yield a block of the request, whatever their
buffers held before. -/
theorem Client.prepare_toMessage (client : Client) {request : DecodedRequest}
    (compressible : 32 + request.encodedSize + request.encodedSize / 6 < 2 ^ 32) :
    ∃ payload, (client.prepare request.toMessage).1 = .ok payload ∧
      payload.protocol = request.protocol ∧ payload.body = Snappy.write request.encode := by
  have fits : request.encodedSize < 2 ^ 64 := by omega
  have short : Snappy.worstCase request.encode.length < 2 ^ 32 := by
    rwa [DecodedRequest.length_encode fits]
  obtain ⟨compressed, compresses, block⟩ :=
    client.config.compression.compress_eq short client.buffer
  have encodes := DecodedRequest.payload_toMessage client.encoder fits
  exact ⟨_, prepare_of_compress encodes compresses, request.protocol_toMessage, block⟩

/-- There is a buffer for every request that can be compressed. -/
theorem Client.write?_toMessage (client : Client) (network : Network τ) {request : DecodedRequest}
    (compressible : 32 + request.encodedSize + request.encodedSize / 6 < 2 ^ 32)
    (cancel : Option CancelPoint) (state : τ) :
    client.write? network request.toMessage cancel state =
      some (client.write network request.toMessage cancel state) := by
  rcases client.write?_cases network request.toMessage cancel state with
    ⟨overflows, _⟩ | ⟨_, writes⟩
  · obtain ⟨needed, asked, large⟩ := overflows.exceeds
    have size : needed = request.encodedSize := List.mem_singleton.mp asked
    rw [Buffer.maxCapacity] at large
    omega
  · exact writes

/-- A write of a request, by a client with any buffers, over a network that
connects it with a receiver that accepts the protocol and has room for the
request. The storage gets the request once, and the client learns that all of
it was written. -/
theorem Client.write_delivered (client : Client) (request : DecodedRequest)
    (storage : DecodedStorage σ) (config : ReceiverConfig) (network : Network τ)
    (view : τ → σ × List DecodedRequest) (state : τ)
    (quiet : storage.Quiet)
    (reachable : client.url.scheme = "http" ∨ client.url.scheme = "https")
    (named : isHeaderValue (Text.utf8 client.config.userAgent) = true)
    (connects : network.Connects (.new storage.recorded.decoding config) view)
    (accepted : config.accepts request.protocol = true)
    (plainFits : request.encodedSize ≤ config.maxDecompressedSize)
    (compressible : 32 + request.encodedSize + request.encodedSize / 6 < 2 ^ 32)
    (bodyFits : ∀ payload, (client.prepare request.toMessage).1 = .ok payload →
      payload.body.length ≤ config.maxBodySize) :
    let written := client.write network request.toMessage none state
    let course := written.1
    client.write? network request.toMessage none state = some written ∧
      ∃ stats, course.ending = .accepted stats ∧ stats.confirmed = true ∧
        (∀ counter : Counter, (counter.read stats).toNat = request.count counter) ∧
        view course.state = ((storage.store (view state).1 request.canonical).2,
          (view state).2 ++ [request.canonical]) := by
  intro written course
  obtain ⟨payload, prepared, protocol, body⟩ := client.prepare_toMessage compressible
  have announceable : request.encodedSize ≤ Snappy.maxLength := by
    rw [Snappy.maxLength]
    omega
  have sends : course = (client.sender network payload none).send state :=
    client.write_of_prepare network prepared none state
  obtain ⟨ending, stored⟩ := (client.sender network payload none).send_delivered rfl
    quiet.recorded connects reachable named protocol body accepted (bodyFits _ prepared)
    plainFits announceable state
  rw [← sends] at ending stored
  refine ⟨client.write?_toMessage network compressible none state, _, ending, rfl,
    fun counter => ?_, ?_⟩
  · have fits : request.canonical.encodedSize < 2 ^ 64 := by
      rw [request.encodedSize_canonical]
      omega
    rw [WriteStats.read_confirm, DecodedRequest.toNat_read_ofRequest fits,
      request.count_canonical]
  · rw [stored]
    rfl

/-- A client that has written before, and a storage that chooses a status. -/
theorem Client.write_delivered_loopback :
    let negativeZero : Binary64 := ⟨0x8000000000000000⟩
    let request : DecodedRequest :=
      .v2 { symbols := [""]
            timeseries := [{ samples := [{ value := negativeZero, timestamp := 1 }]
                             exemplars := [{}] }] }
    let client : Client :=
      { url := ⟨"http", none, .segments ["write"], none, none⟩, config := {}
        encoder := ⟨List.replicate 300 1, 300, Nat.le_of_eq List.length_replicate⟩
        buffer := List.replicate 100 2 }
    let storage : DecodedStorage Nat := ⟨fun calls _ => ({ edits := [.setStatus .ok] }, calls + 1)⟩
    let network := (Receiver.new storage.recorded.decoding).network .zero
    let written := client.write network request.toMessage none (4, [])
    let course := written.1
    client.write? network request.toMessage none (4, []) = some written ∧
      ∃ stats, course.ending = .accepted stats ∧ stats.confirmed = true ∧
        (∀ counter : Counter, (counter.read stats).toNat = request.count counter) ∧
        course.state = (5, [.v2
          { symbols := [""]
            timeseries := [{ samples := [{ value := .zero, timestamp := 1 }]
                             exemplars := [{}] }] }]) := by
  intro negativeZero request client storage network written course
  have bodyFits : ∀ payload, (client.prepare request.toMessage).1 = .ok payload →
      payload.body.length ≤ ({} : ReceiverConfig).maxBodySize := by
    intro payload prepared
    have compressible : 32 + request.encodedSize + request.encodedSize / 6 < 2 ^ 32 := by decide
    obtain ⟨other, otherPrepared, _, body⟩ := client.prepare_toMessage compressible
    cases prepared.symm.trans otherPrepared
    rw [body]
    with_unfolding_all decide
  obtain ⟨writes, stats, ending, confirmed, counts, stored⟩ :=
    client.write_delivered request storage {} network id (4, [])
      (fun _ _ => ⟨rfl, rfl⟩) (.inl rfl) (by decide) (Receiver.network_connects _ _) (by decide)
      (by decide) (by decide) bodyFits
  exact ⟨writes, stats, ending, confirmed, counts, stored⟩

end RemoteWrite
