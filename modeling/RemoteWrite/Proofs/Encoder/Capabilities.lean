import RemoteWrite.Proofs.Encoder

/-!
Contract: a message is encoded by its first capability, and for a request it
makes no difference which one that is.

The sized capabilities write into a buffer that still holds what earlier
messages left in it, and may be longer than the request. The structural one
appends to the emptied buffer. The announced size comes from a computation of
its own, but it is the number of bytes that are written.

Owns:
- the capabilities of a message, in the order in which they are tried;
- the messages that are encoded by a capability of a request;
- their payload, in any state of the encoder.

Does not own: messages that announce another size than they write.
-/

namespace RemoteWrite

/-! ## Capabilities -/

/-- A way of encoding that a message offers. Both sized ones are the same to an
encoder. -/
inductive Capability where
  | sized (marshal : SizedMarshal)
  | structural (encoding : StructuralEncoding)

/-- What a message offers: sized, sized under the other name, structural. -/
def WriteMessage.capabilities (message : WriteMessage) : List Capability :=
  (message.sized.map .sized).toList ++ (message.altSized.map .sized).toList ++
    (message.structural.map .structural).toList

/-- The lengths that a capability needs room for. -/
def Capability.lengths : Capability → List Nat
  | .sized marshal => [marshal.size]
  | .structural encoding => encoding.lengths

def Encoder.encodeBy (encoder : Encoder) : Capability → Encoded
  | .sized marshal => encoder.encodeSized marshal
  | .structural encoding => encoder.encodeStructural encoding

/-- Only the first capability of a message counts, for what it yields and for
the room that it needs. -/
theorem Encoder.encode_eq (encoder : Encoder) (message : WriteMessage) :
    encoder.encode message = (message.capabilities.head?.map encoder.encodeBy).getD
        ⟨encoder, .error (.unsupportedMessageType message.typeName)⟩ ∧
      message.lengths = (message.capabilities.head?.map Capability.lengths).getD [] := by
  obtain ⟨_, sized, altSized, structural, _, _, _⟩ := message
  rcases sized with _ | marshal
  · rcases altSized with _ | marshal
    · rcases structural with _ | encoding
      · exact ⟨rfl, rfl⟩
      · exact ⟨rfl, rfl⟩
    · exact ⟨rfl, rfl⟩
  · exact ⟨rfl, rfl⟩

namespace Encoder

variable (encoder : Encoder) {message : WriteMessage}

theorem encode_of_first {capability : Capability}
    (first : message.capabilities.head? = some capability) :
    encoder.encode message = encoder.encodeBy capability := by
  rw [(encoder.encode_eq message).1, first, Option.map_some, Option.getD_some]

theorem encode_of_incapable (incapable : message.capabilities.head? = none) :
    encoder.encode message =
      ⟨encoder, .error (.unsupportedMessageType message.typeName)⟩ := by
  rw [(encoder.encode_eq message).1, incapable, Option.map_none, Option.getD_none]

end Encoder

/-! ## Requests -/

namespace DecodedRequest

/-- The message is encoded by a capability of the request: its first capability, in the order in
which an encoder tries them, delegates to the request. In what parts the request is appended makes
no difference. -/
inductive IsOfferedBy (request : DecodedRequest) (message : WriteMessage) : Prop where
  | sized (delegates : message.sized = request.toMessage.sized)
  | altSized (noSized : message.sized = none)
      (delegates : message.altSized = request.toMessage.sized)
  | structural (noSized : message.sized = none) (noAltSized : message.altSized = none)
      {reserved : List Nat}
      (delegates : message.structural =
        request.toMessage.structural.map fun encoding => { encoding with reserved })

/-- By every capability, and whatever earlier messages left in the encoder, the payload is the
encoding of the request, and as long as the request announces. -/
theorem payload_of_isOfferedBy {request : DecodedRequest} (fits : request.encodedSize < 2 ^ 64)
    {message : WriteMessage} (offered : request.IsOfferedBy message) (encoder : Encoder) :
    (encoder.encode message).payload = .ok request.encode ∧
      request.encode.length = request.encodedSize := by
  have length := length_encode fits
  refine ⟨?_, length⟩
  cases offered with
  | sized delegates =>
      have first : message.capabilities.head? = request.toMessage.capabilities.head? := by
        rw [WriteMessage.capabilities, delegates]
        rfl
      rw [encoder.encode_of_first first]
      exact encoder.payload_ofEncoding length
  | altSized noSized delegates =>
      have first : message.capabilities.head? = request.toMessage.capabilities.head? := by
        rw [WriteMessage.capabilities, noSized, delegates]
        rfl
      rw [encoder.encode_of_first first]
      exact encoder.payload_ofEncoding length
  | @structural noSized noAltSized reserved delegates =>
      have first : message.capabilities.head? =
          some (.structural { appended := request.encode, reserved }) := by
        rw [WriteMessage.capabilities, noSized, noAltSized, delegates]
        rfl
      rw [encoder.encode_of_first first]
      rfl

/-- A request by all three capabilities, after a message that announced more than it wrote, one
whose encoding failed halfway, and one that wrote over what the first had left. -/
theorem payload_of_isOfferedBy_remains :
    let request : DecodedRequest :=
      .v1 { timeseries := [{ labels := [⟨"job", "node"⟩], samples := [⟨⟨1⟩, -1⟩] }] }
    let short : WriteMessage :=
      { typeName := "short", sized := some (.ofBytes 90 (List.replicate 60 7) none) }
    let failing : WriteMessage :=
      { typeName := "failing"
        structural := some
          { appended := List.replicate 40 8, failure := some (.protobuf 50 40) } }
    let misreporting : WriteMessage :=
      { typeName := "misreporting", altSized := some (.ofBytes 30 (List.replicate 20 9) (some 31)) }
    let encoder := [short, failing, misreporting].foldl
      (fun encoder message => (encoder.encode message).encoder) Encoder.new
    let alternate : WriteMessage := { typeName := "alternate", altSized := request.toMessage.sized }
    let structural : WriteMessage :=
      { typeName := "structural"
        structural := some { appended := request.encode, reserved := [2, 30] } }
    request.encodedSize < 2 ^ 64 ∧ encoder.buffer.length = 40 ∧
      ∀ message ∈ [request.toMessage, alternate, structural],
        (encoder.encode message).payload = .ok request.encode ∧
          request.encode.length = request.encodedSize := by
  intro request short failing misreporting encoder alternate structural
  have fits : request.encodedSize < 2 ^ 64 := by decide
  have sizedOffered : request.IsOfferedBy request.toMessage := .sized rfl
  have alternateOffered : request.IsOfferedBy alternate := .altSized rfl rfl
  have structuralOffered : request.IsOfferedBy structural := .structural rfl rfl rfl
  refine ⟨fits, by decide, ?_⟩
  simp only [List.forall_mem_cons]
  exact ⟨payload_of_isOfferedBy fits sizedOffered encoder,
    payload_of_isOfferedBy fits alternateOffered encoder,
    payload_of_isOfferedBy fits structuralOffered encoder, List.forall_mem_nil _⟩

end DecodedRequest
end RemoteWrite
