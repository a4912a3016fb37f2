import RemoteWrite.Encoder
import RemoteWrite.Proofs.Message.Canonical

/-!
Contract: an encoder yields the encoding of a request, whatever earlier
messages left in its buffer.

Owns:
- filling a buffer of the exact size;
- the payload of requests with their sized encodings;
- reading the payload back.

Does not own: messages of other origin.
-/

namespace RemoteWrite

/-! ## Buffers -/

namespace Buffer

/-- Nothing is left of a buffer that is as long as what is written over it. -/
theorem fill_exact {bytes buffer : Bytes} (exact : bytes.length = buffer.length) :
    fill bytes buffer = bytes := by
  rw [fill, overwrite, ← exact, List.take_length, exact, List.drop_length, List.append_nil]

end Buffer

/-! ## Encoding -/

namespace Encoder

/-- A message that announces its size exactly is encoded as a whole. -/
theorem payload_ofEncoding (encoder : Encoder) {size : Nat} {bytes : Bytes}
    (exact : bytes.length = size) :
    (encoder.encodeSized (.ofEncoding size bytes)).payload = .ok bytes := by
  have length := Buffer.length_take_grow size encoder.buffer
  have fills := Buffer.fill_exact (exact.trans length.symm)
  have fits : size ≤ ((Buffer.grow size encoder.buffer).take size).length := Nat.le_of_eq length.symm
  simp only [encodeSized, SizedMarshal.ofEncoding, if_pos fits, fills, if_pos exact]

end Encoder

namespace DecodedRequest

/-- A request is as long as it announces. -/
theorem length_encode {request : DecodedRequest} (fits : request.encodedSize < 2 ^ 64) :
    request.encode.length = request.encodedSize := by
  cases request with
  | v1 request => exact V1.WriteRequest.schema_faithful.length_write fits
  | v2 request => exact V2.Request.schema_faithful.length_write fits

theorem payload_toMessage (encoder : Encoder) {request : DecodedRequest}
    (fits : request.encodedSize < 2 ^ 64) :
    (encoder.encode request.toMessage).payload = .ok request.encode :=
  encoder.payload_ofEncoding (length_encode fits)

theorem decode_encode {request : DecodedRequest} (fits : request.encodedSize < 2 ^ 64) :
    decode request.protocol request.encode = .ok request.canonical := by
  cases request with
  | v1 request =>
      have decoded := V1.WriteRequest.schema_faithful.decode_write (by decide) fits
      simp only [protocol, encode, decode, canonical, decoded]
  | v2 request =>
      have decoded := V2.Request.schema_faithful.decode_write (by decide) fits
      simp only [protocol, encode, decode, canonical, decoded]

theorem encode_canonical (request : DecodedRequest) :
    request.canonical.encode = request.encode := by
  cases request with
  | v1 request => exact V1.WriteRequest.schema_faithful.write_canonical request
  | v2 request => exact V2.Request.schema_faithful.write_canonical request

theorem encodedSize_canonical (request : DecodedRequest) :
    request.canonical.encodedSize = request.encodedSize := by
  cases request with
  | v1 request => exact V1.WriteRequest.schema_faithful.size_canonical request
  | v2 request => exact V2.Request.schema_faithful.size_canonical request

/-- The payload that an encoder yields for a request, in any state, decodes to
the canonical request, and this one has the same payload again. -/
theorem decode_payload (request : DecodedRequest) (fits : request.encodedSize < 2 ^ 64)
    (encoder other : Encoder) :
    ∃ payload, (encoder.encode request.toMessage).payload = .ok payload ∧
      decode request.protocol payload = .ok request.canonical ∧
      (other.encode request.canonical.toMessage).payload = .ok payload := by
  have canonicalFits : request.canonical.encodedSize < 2 ^ 64 := by
    rwa [encodedSize_canonical]
  refine ⟨request.encode, payload_toMessage encoder fits, decode_encode fits, ?_⟩
  rw [payload_toMessage other canonicalFits, encode_canonical]

/-- A native histogram whose negative zeros differ in what becomes of them, in
a request written over the remains of a longer one. -/
theorem decode_payload_negativeZero :
    let negativeZero : Binary64 := ⟨0x8000000000000000⟩
    let histogram : Histogram :=
      { count := some (.float negativeZero), sum := negativeZero, bucketSchema := -53
        negativeCounts := [negativeZero, ⟨0x7FF8000000000001⟩], positiveDeltas := [-1, 0]
        positiveSpans := [⟨-2, 3⟩, {}], timestamp := -1 }
    let request : DecodedRequest :=
      .v2 { symbols := ["", "job"], timeseries := [{ histograms := [histogram], metadata := some {} }] }
    let used : Encoder := ⟨List.replicate 500 1, 500, Nat.le_of_eq List.length_replicate⟩
    request.encodedSize < 2 ^ 64 ∧
      ∃ payload, (used.encode request.toMessage).payload = .ok payload ∧
        decode .v2 payload = .ok (.v2
          { symbols := ["", "job"]
            timeseries := [{ histograms := [{ histogram with sum := .zero }]
                             metadata := some {} }] }) ∧
        (Encoder.new.encode request.canonical.toMessage).payload = .ok payload := by
  refine ⟨by decide, ?_⟩
  exact decode_payload _ (by decide) _ _

end DecodedRequest
end RemoteWrite
