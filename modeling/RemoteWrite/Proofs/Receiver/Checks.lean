import RemoteWrite.Proofs.Compression
import RemoteWrite.Proofs.Receiver.Answer
import RemoteWrite.Proofs.Text.Utf8

/-!
Contract: which requests reach the storage, and how the others are answered.

A request passes seven checks in a fixed order. What they look at is stated
here without the steps of the receiver: the first values of three headers, the
bytes of the body that arrive, and how the body ends.

Owns:
- the requests that a receiver admits, with their protocol and payload;
- the requests that it refuses, with the status of the first failing check;
- the calls of the storage for either, and requests without an answer.

Does not own: what the storage does, or the texts of rejections.
-/

namespace RemoteWrite

/-! ## Requests -/

namespace BodyChunk

/-- What arrives of a body before it first fails. -/
def arrived : List BodyChunk → List Bytes
  | [] => []
  | .data bytes :: rest => bytes :: arrived rest
  | .failure _ :: _ => []

/-- How a body fails, if it does. -/
def failure? : List BodyChunk → Option String
  | [] => none
  | .data _ :: rest => failure? rest
  | .failure message :: _ => some message

end BodyChunk

namespace IncomingRequest

variable (incoming : IncomingRequest)

/-- The bytes of the body that arrive, however they are split. -/
def arrived : Bytes :=
  (BodyChunk.arrived incoming.body).flatten

/-- The first content type of the request announces a protocol. -/
inductive Announces : Protocol → Prop where
  | absent (missing : incoming.headers.first? Http.contentTypeName = none) : Announces .v1
  | empty (present : incoming.headers.first? Http.contentTypeName = some []) : Announces .v1
  | named {text : String} {protocol : Protocol}
      (present : incoming.headers.first? Http.contentTypeName = some (Text.utf8 text))
      (visible : ∀ c ∈ text.toList, Text.IsVisible c)
      (names : Protocol.ofContentType text = .ok protocol) : Announces protocol

/-- Neither the announced length nor what arrives is beyond the limit. -/
structure Within (limit : Nat) : Prop where
  announced : ∀ length, Receiver.contentLength? incoming.headers = some length → length ≤ limit
  arrived : incoming.arrived.length ≤ limit

/-- The first content encoding of the request is empty or snappy, if there is
one. -/
def UsesSnappy : Prop :=
  ∀ encoding, incoming.headers.first? Http.contentEncodingName = some encoding →
    encoding = [] ∨ encoding = Text.utf8 "snappy"

end IncomingRequest

namespace ReceiverConfig

variable (config : ReceiverConfig) (incoming : IncomingRequest)

structure Negotiates (protocol : Protocol) : Prop where
  announces : incoming.Announces protocol
  accepted : protocol ∈ config.acceptedProtocols

structure Reads : Prop where
  within : incoming.Within config.maxBodySize
  unbroken : BodyChunk.failure? incoming.body = none

/-- The request passes every check, and this is what the storage is to get. -/
structure Admits (protocol : Protocol) (payload : Bytes) : Prop where
  negotiates : config.Negotiates incoming protocol
  reads : config.Reads incoming
  encoding : incoming.UsesSnappy
  fits : ∃ length, Compression.snappy.announcedLength incoming.arrived = .ok length ∧
    length ≤ config.maxDecompressedSize
  decompresses : Compression.snappy.decompress incoming.arrived = .ok payload

/-- The status for a request by the first check that it fails: it passes all
those before. -/
inductive Refuses : Http.Status → Prop where
  | protocol (refused : ∀ protocol, ¬ config.Negotiates incoming protocol) :
      Refuses .unsupportedMediaType
  | size {protocol : Protocol} (negotiates : config.Negotiates incoming protocol)
      (beyond : ¬ incoming.Within config.maxBodySize) : Refuses .payloadTooLarge
  | stream {protocol : Protocol} (negotiates : config.Negotiates incoming protocol)
      (within : incoming.Within config.maxBodySize) {message : String}
      (broken : BodyChunk.failure? incoming.body = some message) : Refuses .badRequest
  | encoding {protocol : Protocol} (negotiates : config.Negotiates incoming protocol)
      (reads : config.Reads incoming) (other : ¬ incoming.UsesSnappy) :
      Refuses .unsupportedMediaType
  | announcement {protocol : Protocol} (negotiates : config.Negotiates incoming protocol)
      (reads : config.Reads incoming) (encoding : incoming.UsesSnappy) {error : CompressionError}
      (unreadable : Compression.snappy.announcedLength incoming.arrived = .error error) :
      Refuses .badRequest
  | expansion {protocol : Protocol} (negotiates : config.Negotiates incoming protocol)
      (reads : config.Reads incoming) (encoding : incoming.UsesSnappy) {length : Nat}
      (announced : Compression.snappy.announcedLength incoming.arrived = .ok length)
      (beyond : config.maxDecompressedSize < length) : Refuses .payloadTooLarge
  | corruption {protocol : Protocol} (negotiates : config.Negotiates incoming protocol)
      (reads : config.Reads incoming) (encoding : incoming.UsesSnappy) {length : Nat}
      (announced : Compression.snappy.announcedLength incoming.arrived = .ok length)
      (fits : length ≤ config.maxDecompressedSize) {error : CompressionError}
      (corrupt : Compression.snappy.decompress incoming.arrived = .error error) :
      Refuses .badRequest

/-- There can be no buffer for the announced length, although the length is
within the limit. -/
structure Overflows : Prop where
  negotiates : ∃ protocol, config.Negotiates incoming protocol
  announces : ∃ length, Receiver.contentLength? incoming.headers = some length ∧
    Buffer.maxCapacity < length ∧ length ≤ config.maxBodySize

end ReceiverConfig

namespace Receiver

variable {config : ReceiverConfig} {incoming : IncomingRequest}

/-! ## Protocol -/

theorem announcedProtocol_of_announces {protocol : Protocol}
    (announces : incoming.Announces protocol) :
    announcedProtocol incoming.headers = .ok protocol := by
  cases announces with
  | absent missing => simp only [announcedProtocol, missing]
  | empty present => simp only [announcedProtocol, present]
  | @named text protocol present visible names =>
      have readable : Text.visible? (Text.utf8 text) = some text := by
        have read := Text.visible?_utf8 visible
        rwa [String.ofList_toList] at read
      rw [announcedProtocol, present]
      split
      · rename_i impossible
        cases impossible
      -- The empty text names no protocol.
      · rename_i empty
        rw [Option.some.inj empty] at readable
        cases readable
        cases names
      · rename_i value _ same
        cases same
        simp only [readable, names]

theorem announces_of_announcedProtocol {protocol : Protocol}
    (announced : announcedProtocol incoming.headers = .ok protocol) :
    incoming.Announces protocol := by
  unfold announcedProtocol at announced
  split at announced
  · rename_i missing
    cases announced
    exact .absent missing
  · rename_i present
    cases announced
    exact .empty present
  · rename_i value _ present
    split at announced
    · cases announced
    · rename_i text readable
      split at announced
      · cases announced
      · rename_i named names
        cases announced
        obtain ⟨rfl, visible⟩ := Text.utf8_of_visible?_eq_some readable
        exact .named present visible names

theorem status_of_announcedProtocol {headers : Http.Headers} {rejection : Rejection}
    (rejects : announcedProtocol headers = .error rejection) :
    rejection.status = .unsupportedMediaType := by
  unfold announcedProtocol at rejects
  split at rejects
  · cases rejects
  · cases rejects
  · split at rejects
    · cases rejects
      rfl
    · split at rejects
      · cases rejects
        rfl
      · cases rejects

theorem negotiate_of_negotiates {protocol : Protocol}
    (negotiates : config.Negotiates incoming protocol) :
    negotiate config incoming.headers = .ok protocol := by
  have accepted : config.accepts protocol = true := List.contains_iff_mem.mpr negotiates.accepted
  rw [negotiate, announcedProtocol_of_announces negotiates.announces]
  simp only [if_pos accepted]

theorem negotiates_of_negotiate {protocol : Protocol}
    (negotiated : negotiate config incoming.headers = .ok protocol) :
    config.Negotiates incoming protocol := by
  unfold negotiate at negotiated
  split at negotiated
  · cases negotiated
  · rename_i other announced
    split at negotiated
    · rename_i accepted
      cases negotiated
      exact ⟨announces_of_announcedProtocol announced, List.contains_iff_mem.mp accepted⟩
    · cases negotiated

theorem negotiate_of_refused
    (refused : ∀ protocol, ¬ config.Negotiates incoming protocol) :
    ∃ rejection, negotiate config incoming.headers = .error rejection ∧
      rejection.status = .unsupportedMediaType := by
  cases negotiated : negotiate config incoming.headers with
  | ok protocol => exact absurd (negotiates_of_negotiate negotiated) (refused protocol)
  | error rejection =>
      refine ⟨rejection, rfl, ?_⟩
      unfold negotiate at negotiated
      split at negotiated
      · rename_i announced
        cases negotiated
        exact status_of_announcedProtocol announced
      · split at negotiated
        · cases negotiated
        · cases negotiated
          rfl

/-! ## Body -/

/-- The chunks of a body are judged by what has arrived up to its end or its
first failure, not by where it is cut. -/
theorem readChunks_eq {limit size : Nat} (started : size ≤ limit) (chunks : List BodyChunk) :
    readChunks limit size chunks =
      if limit < size + (BodyChunk.arrived chunks).flatten.length then .error (tooLarge limit)
      else
        match BodyChunk.failure? chunks with
        | none => .ok (BodyChunk.arrived chunks)
        | some message => .error ⟨.badRequest, "failed to read request body: " ++ message⟩ := by
  induction chunks generalizing size with
  | nil => exact (if_neg (Nat.not_lt.mpr started)).symm
  | cons chunk rest inductionHypothesis =>
      cases chunk with
      | failure message => exact (if_neg (Nat.not_lt.mpr started)).symm
      | data bytes =>
          simp only [readChunks, BodyChunk.arrived, BodyChunk.failure?, List.flatten_cons,
            List.length_append, ← Nat.add_assoc]
          by_cases beyond : limit < size + bytes.length
          · rw [if_pos beyond, if_pos (Nat.lt_of_lt_of_le beyond (Nat.le_add_right _ _))]
          · rw [if_neg beyond, inductionHypothesis (Nat.not_lt.mp beyond)]
            split
            · rfl
            · cases BodyChunk.failure? rest <;> rfl

theorem readBody_of_within {limit : Nat} (within : incoming.Within limit) :
    readBody limit incoming.headers incoming.body =
      match BodyChunk.failure? incoming.body with
      | none => .ok incoming.arrived
      | some message => .error ⟨.badRequest, "failed to read request body: " ++ message⟩ := by
  have announced : (contentLength? incoming.headers).any (limit < ·) = false := by
    cases found : contentLength? incoming.headers with
    | none => rfl
    | some length => exact decide_eq_false (Nat.not_lt.mpr (within.announced length found))
  have arrived : ¬ limit < 0 + (BodyChunk.arrived incoming.body).flatten.length := by
    rw [Nat.zero_add]
    exact Nat.not_lt.mpr within.arrived
  rw [readBody, announced, readChunks_eq (Nat.zero_le limit), if_neg arrived]
  cases BodyChunk.failure? incoming.body <;> rfl

theorem readBody_of_beyond {limit : Nat} (beyond : ¬ incoming.Within limit) :
    readBody limit incoming.headers incoming.body = .error (tooLarge limit) := by
  rw [readBody]
  split
  · rfl
  · rename_i announced
    have more : limit < 0 + (BodyChunk.arrived incoming.body).flatten.length := by
      refine Nat.lt_of_not_le fun fits => beyond ⟨fun length found => ?_, ?_⟩
      · rw [found] at announced
        exact Nat.not_lt.mp fun excess => announced (decide_eq_true excess)
      · rwa [Nat.zero_add] at fits
    rw [readChunks_eq (Nat.zero_le limit), if_pos more]
    rfl

/-! ## Payload -/

theorem announcesSnappy_iff :
    RequestStep.announcesSnappy incoming.headers = true ↔ incoming.UsesSnappy := by
  unfold RequestStep.announcesSnappy IncomingRequest.UsesSnappy
  cases incoming.headers.first? Http.contentEncodingName with
  | none => exact ⟨fun _ => nofun, fun _ => rfl⟩
  | some encoding =>
      simp only [Bool.or_eq_true, List.isEmpty_iff, decide_eq_true_eq, Option.some.injEq]
      exact ⟨fun known _ same => same ▸ known, fun known => known encoding rfl⟩

theorem outcome_chain_singleton (step : RequestStep) (headers : Http.Headers) (body : Bytes) :
    (RequestStep.chain [step] headers body).outcome = (step.apply headers body).outcome := by
  rw [RequestStep.chain]
  cases applied : (step.apply headers body).outcome with
  | error rejection => simp only [applied]
  | ok payload => rfl

/-- What the decompression step makes of a body that is read. -/
theorem accept_of_reads {σ : Type} (storage : Storage σ) {protocol : Protocol}
    (negotiates : config.Negotiates incoming protocol) (reads : config.Reads incoming) :
    ((Receiver.new storage config).accept incoming).1 =
      (RequestStep.decompress config.maxDecompressedSize incoming.headers
        incoming.arrived).outcome.map fun payload => (protocol, payload) := by
  have read := readBody_of_within reads.within
  rw [reads.unbroken] at read
  simp only [accept, Receiver.new, negotiate_of_negotiates negotiates, read,
    outcome_chain_singleton, RequestStep.snappy]

/-! ## Checks -/

theorem accept_of_admits {σ : Type} (storage : Storage σ) {protocol : Protocol} {payload : Bytes}
    (admits : config.Admits incoming protocol payload) :
    ((Receiver.new storage config).accept incoming).1 = .ok (protocol, payload) := by
  obtain ⟨negotiates, reads, encoding, ⟨length, announced, fits⟩, decompresses⟩ := admits
  rw [accept_of_reads storage negotiates reads, RequestStep.decompress,
    if_pos (announcesSnappy_iff.mpr encoding), announced]
  simp only [if_neg (Nat.not_lt.mpr fits), decompresses]
  rfl

/-- A check that fails rejects with its status, if none failed before. -/
theorem accept_of_refuses {σ : Type} (storage : Storage σ) {status : Http.Status}
    (refuses : config.Refuses incoming status) :
    ∃ rejection, ((Receiver.new storage config).accept incoming).1 = .error rejection ∧
      rejection.status = status := by
  cases refuses with
  | protocol refused =>
      obtain ⟨rejection, rejects, status⟩ := negotiate_of_refused refused
      refine ⟨rejection, ?_, status⟩
      simp only [accept, Receiver.new, rejects]
  | size negotiates beyond =>
      refine ⟨tooLarge config.maxBodySize, ?_, rfl⟩
      simp only [accept, Receiver.new, negotiate_of_negotiates negotiates,
        readBody_of_beyond beyond]
  | @stream protocol negotiates within message broken =>
      have read := readBody_of_within within
      rw [broken] at read
      refine ⟨⟨.badRequest, "failed to read request body: " ++ message⟩, ?_, rfl⟩
      simp only [accept, Receiver.new, negotiate_of_negotiates negotiates, read]
  | encoding negotiates reads other =>
      rw [accept_of_reads storage negotiates reads, RequestStep.decompress,
        if_neg (other ∘ announcesSnappy_iff.mp)]
      exact ⟨_, rfl, rfl⟩
  | announcement negotiates reads encoding unreadable =>
      rw [accept_of_reads storage negotiates reads, RequestStep.decompress,
        if_pos (announcesSnappy_iff.mpr encoding), unreadable]
      exact ⟨_, rfl, rfl⟩
  | expansion negotiates reads encoding announced beyond =>
      rw [accept_of_reads storage negotiates reads, RequestStep.decompress,
        if_pos (announcesSnappy_iff.mpr encoding), announced]
      simp only [if_pos beyond]
      exact ⟨_, rfl, rfl⟩
  | corruption negotiates reads encoding announced fits corrupt =>
      rw [accept_of_reads storage negotiates reads, RequestStep.decompress,
        if_pos (announcesSnappy_iff.mpr encoding), announced]
      simp only [if_neg (Nat.not_lt.mpr fits), corrupt]
      exact ⟨_, rfl, rfl⟩

end Receiver

/-- No request is left without a verdict. -/
theorem ReceiverConfig.admits_or_refuses (config : ReceiverConfig) (incoming : IncomingRequest) :
    (∃ protocol payload, config.Admits incoming protocol payload) ∨
      ∃ status, config.Refuses incoming status := by
  by_cases negotiated : ∃ protocol, config.Negotiates incoming protocol
  case neg => exact .inr ⟨_, .protocol fun protocol accepts => negotiated ⟨protocol, accepts⟩⟩
  obtain ⟨protocol, negotiates⟩ := negotiated
  by_cases within : incoming.Within config.maxBodySize
  case neg => exact .inr ⟨_, .size negotiates within⟩
  cases ending : BodyChunk.failure? incoming.body with
  | some message => exact .inr ⟨_, .stream negotiates within ending⟩
  | none =>
      have reads : config.Reads incoming := ⟨within, ending⟩
      by_cases encoding : incoming.UsesSnappy
      case neg => exact .inr ⟨_, .encoding negotiates reads encoding⟩
      cases announced : Compression.snappy.announcedLength incoming.arrived with
      | error error => exact .inr ⟨_, .announcement negotiates reads encoding announced⟩
      | ok length =>
          by_cases fits : length ≤ config.maxDecompressedSize
          case neg =>
            exact .inr ⟨_, .expansion negotiates reads encoding announced (Nat.lt_of_not_le fits)⟩
          cases decompressed : Compression.snappy.decompress incoming.arrived with
          | error error =>
              exact .inr ⟨_, .corruption negotiates reads encoding announced fits decompressed⟩
          | ok payload =>
              exact .inl ⟨protocol, payload, negotiates, reads, encoding,
                ⟨length, announced, fits⟩, decompressed⟩

namespace Receiver

variable {σ : Type} {config : ReceiverConfig} {incoming : IncomingRequest}

theorem overflows_iff (receiver : Receiver σ) (incoming : IncomingRequest) :
    receiver.overflows incoming = true ↔ receiver.config.Overflows incoming := by
  unfold overflows
  cases negotiated : negotiate receiver.config incoming.headers with
  | error rejection =>
      refine ⟨nofun, fun overflow => ?_⟩
      obtain ⟨protocol, negotiates⟩ := overflow.negotiates
      cases negotiated.symm.trans (negotiate_of_negotiates negotiates)
  | ok protocol =>
      simp only [Option.any_eq_true, Bool.and_eq_true, decide_eq_true_eq]
      exact ⟨fun announces => ⟨⟨protocol, negotiates_of_negotiate negotiated⟩, announces⟩,
        fun overflow => overflow.announces⟩

/-- A request gets its answer unless it overflows. -/
theorem handle?_cases (receiver : Receiver σ) (state : σ) (incoming : IncomingRequest) :
    (receiver.config.Overflows incoming ∧ receiver.handle? state incoming = none) ∨
      ¬ receiver.config.Overflows incoming ∧
        receiver.handle? state incoming = some (receiver.handle state incoming) :=
  Buffer.outcome_cases (receiver.overflows_iff incoming) _

theorem handle?_eq_some (receiver : Receiver σ) {incoming : IncomingRequest}
    (fits : ¬ receiver.config.Overflows incoming) (state : σ) :
    receiver.handle? state incoming = some (receiver.handle state incoming) :=
  (receiver.handle?_cases state incoming).elim (fun overflows => absurd overflows.1 fits) And.right

/-! ## Calls -/

/-- A request that is admitted reaches the storage once, with its protocol and
its payload. -/
theorem state_handle_of_admits (storage : Storage σ) {protocol : Protocol} {payload : Bytes}
    (admits : config.Admits incoming protocol payload) (state : σ) (calls : List StoreCall) :
    ((Receiver.new storage.recorded config).handle (state, calls) incoming).state =
      ((storage.store state protocol payload).2, calls ++ [⟨protocol, payload⟩]) :=
  (handle_of_accept (Prod.ext (accept_of_admits storage.recorded admits) rfl) (state, calls)).2

/-- A request that is refused leaves the storage alone. -/
theorem handle_of_refuses (storage : Storage σ) {status : Http.Status}
    (refuses : config.Refuses incoming status) (state : σ) :
    let handled := (Receiver.new storage config).handle state incoming
    handled.state = state ∧ handled.response.status = status := by
  intro handled
  obtain ⟨rejection, rejects, same⟩ := accept_of_refuses storage refuses
  obtain ⟨answers, keeps⟩ := handle_of_reject (Prod.ext rejects rfl) state
  exact ⟨keeps, (congrArg ServerResponse.status answers).trans same⟩

theorem not_admits_of_refuses {status : Http.Status} (refuses : config.Refuses incoming status)
    (protocol : Protocol) (payload : Bytes) : ¬ config.Admits incoming protocol payload := by
  intro admits
  obtain ⟨rejection, rejects, _⟩ := accept_of_refuses Storage.scripted refuses
  cases rejects.symm.trans (accept_of_admits Storage.scripted admits)

/-- Requests whose announced length no buffer has room for get no answer. Of
all others exactly those that pass every check reach the storage, once and
with a payload that is as long as announced. The rest leaves the storage
alone, and the status of the answer tells the first check that failed. -/
theorem calls_handle (storage : Storage σ) (config : ReceiverConfig) (incoming : IncomingRequest)
    (state : σ) (calls : List StoreCall) :
    match (Receiver.new storage.recorded config).handle? (state, calls) incoming with
    | none => config.Overflows incoming
    | some handled =>
        ¬ config.Overflows incoming ∧
          (∀ protocol payload, handled.state.2 = calls ++ [⟨protocol, payload⟩] ↔
            config.Admits incoming protocol payload) ∧
          (∀ protocol payload, config.Admits incoming protocol payload →
            Compression.snappy.announcedLength incoming.arrived = .ok payload.length ∧
              payload.length ≤ config.maxDecompressedSize) ∧
          ((∀ protocol payload, ¬ config.Admits incoming protocol payload) →
            handled.state = (state, calls) ∧
              ∀ status, handled.response.status = status ↔ config.Refuses incoming status) := by
  rcases (Receiver.new storage.recorded config).handle?_cases (state, calls) incoming with
    ⟨overflows, unanswered⟩ | ⟨fits, answered⟩
  · rw [unanswered]
    exact overflows
  rw [answered]
  refine ⟨fits, fun protocol payload => ?_, fun protocol payload admits => ?_,
    fun rejected => ?_⟩
  · rcases config.admits_or_refuses incoming with ⟨admitted, plain, admits⟩ | ⟨status, refuses⟩
    · rw [state_handle_of_admits storage admits]
      refine ⟨fun same => ?_, fun others => ?_⟩
      · cases List.append_cancel_left same
        exact admits
      · have called := state_handle_of_admits storage others state calls
        rw [state_handle_of_admits storage admits] at called
        exact congrArg Prod.snd called
    · rw [(handle_of_refuses storage.recorded refuses (state, calls)).1]
      refine ⟨fun same => ?_, fun admits => ?_⟩
      · cases List.self_eq_append_right.mp same
      · exact absurd admits (not_admits_of_refuses refuses protocol payload)
  · have length := Compression.announcedLength_of_decompress _ admits.decompresses
    obtain ⟨announced, found, fits⟩ := admits.fits
    cases found.symm.trans length
    exact ⟨length, fits⟩
  · rcases config.admits_or_refuses incoming with ⟨protocol, payload, admits⟩ | ⟨status, refuses⟩
    · exact absurd admits (rejected protocol payload)
    · obtain ⟨keeps, answered⟩ := handle_of_refuses storage.recorded refuses (state, calls)
      refine ⟨keeps, fun other => ⟨fun same => ?_, fun others => ?_⟩⟩
      · rw [← same, answered]
        exact refuses
      · exact (handle_of_refuses storage.recorded others (state, calls)).2

/-- A body in four chunks that is as long as allowed, and stands for as much
data as allowed. -/
theorem calls_handle_chunked :
    let config : ReceiverConfig :=
      { maxBodySize := 5, maxDecompressedSize := 3, acceptedProtocols := [.v1] }
    let storage : Storage Unit := ⟨fun _ _ _ => ({}, ())⟩
    let incoming : IncomingRequest :=
      ⟨"POST", "/write",
        .ofList [("Content-Type", []), ("Content-Encoding", []),
          ("Content-Length", Text.utf8 "+5")],
        [.data [3], .data [], .data [8, 1, 2], .data [3]]⟩
    ∃ handled, (Receiver.new storage.recorded config).handle? ((), []) incoming = some handled ∧
      handled.state.2 = [⟨.v1, [1, 2, 3]⟩] := by
  intro config storage incoming
  have announced : contentLength? incoming.headers = some 5 := by decide
  have encoded : incoming.headers.first? Http.contentEncodingName = some [] := by decide
  have block : incoming.arrived = Snappy.write [1, 2, 3] := by with_unfolding_all decide
  have admits : config.Admits incoming .v1 [1, 2, 3] := by
    refine ⟨⟨.empty (by decide), by decide⟩, ⟨⟨fun length found => ?_, by decide⟩, rfl⟩,
      fun encoding present => ?_,
      ⟨3, block ▸ Compression.announcedLength_block _ (by decide), by decide⟩,
      block ▸ Compression.decompress_block _ (by decide)⟩
    · cases announced.symm.trans found
      decide
    · exact .inl (Option.some.inj (present.symm.trans encoded))
  have all := calls_handle storage config incoming () []
  cases found : (Receiver.new storage.recorded config).handle? ((), []) incoming with
  | none =>
      rw [found] at all
      obtain ⟨length, known, large, _⟩ := all.announces
      cases announced.symm.trans known
      exact absurd large (by decide)
  | some handled =>
      rw [found] at all
      exact ⟨handled, rfl, (all.2.1 .v1 [1, 2, 3]).mpr admits⟩

/-- A request that passes every check, and announces a length that is within
an unlimited receiver's limit. It gets no answer. -/
theorem calls_handle_overflow :
    let config : ReceiverConfig := { maxBodySize := 2 ^ 64 - 1 }
    let storage : Storage Unit := ⟨fun _ _ _ => ({}, ())⟩
    let incoming : IncomingRequest :=
      ⟨"POST", "/write", .ofList [("Content-Length", Text.utf8 "9223372036854775808")],
        [.data [1, 0, 7]]⟩
    config.Admits incoming .v1 [7] ∧
      (Receiver.new storage.recorded config).handle? ((), []) incoming = none := by
  intro config storage incoming
  have announced : contentLength? incoming.headers = some (2 ^ 63) := by decide
  have negotiates : config.Negotiates incoming .v1 := ⟨.absent (by decide), by decide⟩
  have block : incoming.arrived = Snappy.write [7] := by with_unfolding_all decide
  refine ⟨⟨negotiates, ⟨⟨fun length found => ?_, by decide⟩, rfl⟩, ?_,
    ⟨1, block ▸ Compression.announcedLength_block _ (by decide), by decide⟩,
    block ▸ Compression.decompress_block _ (by decide)⟩, ?_⟩
  · cases announced.symm.trans found
    decide
  · intro encoding present
    cases present
  · have overflow : config.Overflows incoming :=
      ⟨⟨.v1, negotiates⟩, 2 ^ 63, announced, by decide, by decide⟩
    exact if_pos ((overflows_iff _ _).mpr overflow)

end Receiver
end RemoteWrite
