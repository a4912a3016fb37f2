import RemoteWrite.Client.Network
import RemoteWrite.Proofs.Receiver.Checks

/-!
Contract: what a client sends is what a receiver admits.

Owns:
- requests that arrive as they were sent, however their body is split;
- the protocol, the body, and the payload that a receiver takes from them.

Does not own: the checks of a receiver, or what a storage does.
-/

namespace RemoteWrite

/-- The request arrives as it was sent. Its headers have the same content type
and encoding, a length is announced correctly or not at all, and the parts of
the body make up the whole. -/
structure IncomingRequest.Delivers (incoming : IncomingRequest) (request : OutgoingRequest) :
    Prop where
  contentType :
    incoming.headers.values Http.contentTypeName = request.headers.values Http.contentTypeName
  contentEncoding :
    incoming.headers.values Http.contentEncodingName =
      request.headers.values Http.contentEncodingName
  contentLength : ∀ length, Receiver.contentLength? incoming.headers = some length →
    length = request.body.length
  body : ∃ parts : List Bytes, incoming.body = parts.map .data ∧ parts.flatten = request.body

/-! ## Body -/

theorem BodyChunk.arrived_data (parts : List Bytes) : arrived (parts.map .data) = parts := by
  induction parts with
  | nil => rfl
  | cons bytes rest inductionHypothesis => exact congrArg (bytes :: ·) inductionHypothesis

theorem BodyChunk.failure?_data (parts : List Bytes) : failure? (parts.map .data) = none := by
  induction parts with
  | nil => rfl
  | cons bytes rest inductionHypothesis => exact inductionHypothesis

namespace IncomingRequest.Delivers

variable {incoming : IncomingRequest} {request : OutgoingRequest}

/-- The body arrives as it was sent, and does not fail. -/
theorem arrived (delivers : incoming.Delivers request) :
    incoming.arrived = request.body ∧ BodyChunk.failure? incoming.body = none := by
  obtain ⟨parts, split, whole⟩ := delivers.body
  rw [IncomingRequest.arrived, split, BodyChunk.arrived_data]
  exact ⟨whole, BodyChunk.failure?_data parts⟩

theorem reads (delivers : incoming.Delivers request) {config : ReceiverConfig}
    (fits : request.body.length ≤ config.maxBodySize) : config.Reads incoming where
  within :=
    { announced := fun length announced => by rwa [delivers.contentLength length announced]
      arrived := by rwa [delivers.arrived.1] }
  unbroken := delivers.arrived.2

/-- There is a buffer for a body whose length is announced correctly, if there
can be one at all. -/
theorem not_overflows (delivers : incoming.Delivers request) (config : ReceiverConfig)
    (fits : request.body.length ≤ Buffer.maxCapacity) : ¬ config.Overflows incoming := by
  intro overflows
  obtain ⟨length, announced, large, -⟩ := overflows.announces
  rw [delivers.contentLength length announced] at large
  exact Nat.not_lt_of_le fits large

/-! ## Headers -/

/-- The content type that is sent along with a protocol announces it. -/
theorem announces (delivers : incoming.Delivers request) {protocol : Protocol}
    (contentType : request.headers.values Http.contentTypeName =
      [Text.utf8 protocol.contentType]) : incoming.Announces protocol := by
  refine Receiver.announces_of_announcedProtocol ?_
  rw [Receiver.announcedProtocol, Http.Headers.first?, delivers.contentType, contentType]
  cases protocol with
  | v1 => rfl
  | v2 => rfl

theorem usesSnappy (delivers : incoming.Delivers request)
    (contentEncoding : request.headers.values Http.contentEncodingName =
      [Text.utf8 Compression.snappy.name]) : incoming.UsesSnappy := by
  intro encoding present
  rw [Http.Headers.first?, delivers.contentEncoding, contentEncoding] at present
  exact .inr (Option.some.inj present).symm

/-! ## Admission -/

/-- A receiver admits a request of an accepted protocol within its limits. -/
theorem admits (delivers : incoming.Delivers request) {config : ReceiverConfig}
    {protocol : Protocol} {plain : Bytes}
    (contentType : request.headers.values Http.contentTypeName =
      [Text.utf8 protocol.contentType])
    (contentEncoding : request.headers.values Http.contentEncodingName =
      [Text.utf8 Compression.snappy.name])
    (body : request.body = Snappy.write plain)
    (accepted : config.accepts protocol = true)
    (bodyFits : request.body.length ≤ config.maxBodySize)
    (announceable : plain.length ≤ Snappy.maxLength)
    (plainFits : plain.length ≤ config.maxDecompressedSize) :
    config.Admits incoming protocol plain := by
  have block : incoming.arrived = Snappy.write plain := delivers.arrived.1.trans body
  refine ⟨⟨delivers.announces contentType, List.contains_iff_mem.mp accepted⟩,
    delivers.reads bodyFits, delivers.usesSnappy contentEncoding,
    ⟨plain.length, ?_, plainFits⟩, ?_⟩
  · rw [block]
    exact Compression.announcedLength_block _ announceable
  · rw [block]
    exact Compression.decompress_block _ announceable

end IncomingRequest.Delivers
end RemoteWrite
