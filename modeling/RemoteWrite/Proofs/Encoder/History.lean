import RemoteWrite.Proofs.Encoder.Capabilities
import RemoteWrite.Proofs.Encoder.Capacity

/-!
Contract: nothing of earlier messages gets into a payload.

After a long message the buffer of an encoder is longer than the next one,
after a message that is appended it is shorter, and after one that failed it
was partly overwritten. A marshal that does not read the buffer, and writes all
of it when it reports the announced size, hides all of this: what of the buffer
becomes a payload was written for this message.

Owns:
- marshals that do not read the buffer;
- the payload of a message by its first capability, in any state of the encoder;
- the payload of a message after any others.

Does not own: what a marshal writes, or the room for it.
-/

namespace RemoteWrite

/-! ## Marshals that do not read the buffer -/

namespace SizedMarshal

/-- A buffer after some of its places were written. The others keep what they
held. -/
def overlay (writes : List (Option UInt8)) (buffer : Bytes) : Bytes :=
  List.zipWith (fun write held => write.getD held) writes buffer

/-- The marshal does not read the buffer. Which places it writes, what it
writes there and what it reports is the same for every buffer of the announced
size. -/
structure IsBlind (marshal : SizedMarshal) (writes : List (Option UInt8))
    (outcome : Except EncodeError Nat) : Prop where
  places : writes.length = marshal.size
  effect : ∀ buffer : Bytes, buffer.length = marshal.size →
    marshal.marshal buffer = ⟨overlay writes buffer, outcome⟩

/-- The marshal does not read the buffer, and writes all of its places if it
reports the announced size. -/
def IsReliable (marshal : SizedMarshal) : Prop :=
  ∃ writes outcome, marshal.IsBlind writes outcome ∧
    (outcome = .ok marshal.size → ∀ write ∈ writes, write.isSome)

/-- Nothing is left of a buffer all of whose places are written. -/
theorem overlay_of_isSome {writes : List (Option UInt8)}
    (complete : ∀ write ∈ writes, write.isSome) {buffer other : Bytes}
    (sameLength : buffer.length = other.length) :
    overlay writes buffer = overlay writes other := by
  induction writes generalizing buffer other with
  | nil => rfl
  | cons write writes inductionHypothesis =>
      obtain ⟨byte, rfl⟩ := Option.isSome_iff_exists.mp (complete write List.mem_cons_self)
      have completeTail : ∀ write ∈ writes, write.isSome := by
        intro write member
        exact complete write (List.mem_cons_of_mem _ member)
      match buffer, other with
      | [], [] => rfl
      | _ :: buffer, _ :: other =>
          have tail := inductionHypothesis completeTail (Nat.succ.inj sameLength)
          exact congrArg (byte :: ·) tail

theorem overlay_replicate_none {size : Nat} {buffer : Bytes} (length : buffer.length = size) :
    overlay (List.replicate size none) buffer = buffer := by
  subst length
  induction buffer with
  | nil => rfl
  | cons held buffer inductionHypothesis => exact congrArg (held :: ·) inductionHypothesis

theorem overlay_map_some {bytes buffer : Bytes} (length : bytes.length = buffer.length) :
    overlay (bytes.map some) buffer = bytes := by
  induction bytes generalizing buffer with
  | nil => rfl
  | cons byte bytes inductionHypothesis =>
      match buffer with
      | _ :: buffer => exact congrArg (byte :: ·) (inductionHypothesis (Nat.succ.inj length))

/-- Filling a buffer writes its front and leaves the rest. -/
theorem fill_eq_overlay {bytes buffer : Bytes} (fits : bytes.length ≤ buffer.length) :
    Buffer.fill bytes buffer =
      overlay (bytes.map some ++ List.replicate (buffer.length - bytes.length) none) buffer := by
  have front : bytes.length = (buffer.take bytes.length).length :=
    (List.length_take_of_le fits).symm
  have split : (bytes.map some).length = (buffer.take bytes.length).length :=
    List.length_map some |>.trans front
  calc Buffer.fill bytes buffer
      = bytes ++ buffer.drop bytes.length := by
        rw [Buffer.fill, List.take_of_length_le fits, Buffer.overwrite]
    _ = overlay (bytes.map some) (buffer.take bytes.length) ++
          overlay (List.replicate (buffer.length - bytes.length) none)
            (buffer.drop bytes.length) := by
        rw [overlay_map_some front, overlay_replicate_none List.length_drop]
    _ = overlay (bytes.map some ++ List.replicate (buffer.length - bytes.length) none)
          (buffer.take bytes.length ++ buffer.drop bytes.length) :=
        (List.zipWith_append split).symm
    _ = overlay (bytes.map some ++ List.replicate (buffer.length - bytes.length) none) buffer := by
        rw [List.take_append_drop]

/-- Known bytes are written reliably, whatever size is announced for them. -/
theorem isReliable_ofEncoding {size : Nat} {bytes : Bytes} (length : bytes.length = size)
    (announced : Nat) : ((ofEncoding size bytes).announcing announced).IsReliable := by
  subst length
  by_cases fits : bytes.length ≤ announced
  · refine ⟨bytes.map some ++ List.replicate (announced - bytes.length) none,
      .ok bytes.length, ⟨?_, ?_⟩, ?_⟩
    · rw [List.length_append, List.length_map, List.length_replicate]
      exact Nat.add_sub_cancel' fits
    · intro buffer sized
      have held : buffer.length = announced := sized
      subst held
      simp only [announcing, ofEncoding, if_pos fits]
      rw [fill_eq_overlay fits]
    · intro reports
      have exactly : bytes.length = announced := Except.ok.inj reports
      rw [exactly, Nat.sub_self, List.replicate_zero, List.append_nil]
      intro write member
      obtain ⟨byte, -, rfl⟩ := List.mem_map.mp member
      rfl
  · refine ⟨List.replicate announced none, .error (.protobuf bytes.length announced),
      ⟨List.length_replicate, ?_⟩, ?_⟩
    · intro buffer sized
      have held : buffer.length = announced := sized
      subst held
      simp only [announcing, ofEncoding, if_neg fits]
      rw [overlay_replicate_none rfl]
    · intro reports
      cases reports

end SizedMarshal

/-! ## Payloads -/

namespace Encoder

variable (encoder : Encoder)

/-- Sized messages whose marshal is reliable have the payload that it yields
over any buffer of the announced size. -/
theorem payload_encodeSized {marshal : SizedMarshal} (reliable : marshal.IsReliable)
    {buffer : Bytes} (sized : buffer.length = marshal.size) :
    (encoder.encodeSized marshal).payload =
      match (marshal.marshal buffer).outcome with
      | .error cause => .error cause
      | .ok written =>
        if written = marshal.size then .ok (marshal.marshal buffer).buffer
        else .error (.sizeMismatch marshal.size written) := by
  obtain ⟨writes, outcome, blind, complete⟩ := reliable
  have held := Buffer.length_take_grow marshal.size encoder.buffer
  unfold encodeSized
  simp only [blind.effect _ held, blind.effect _ sized]
  rcases outcome with cause | written
  · rfl
  · by_cases exactly : written = marshal.size
    · have same := SizedMarshal.overlay_of_isSome (complete (congrArg _ exactly))
        (held.trans sized.symm)
      simp only [if_pos exactly, same]
    · simp only [if_neg exactly]

/-- What a reliable marshal reports over any buffer of the announced size decides
about the payload. -/
theorem payload_of_outcome {marshal : SizedMarshal} (reliable : marshal.IsReliable)
    {buffer : Bytes} (sized : buffer.length = marshal.size) :
    let payload := (encoder.encodeSized marshal).payload
    (∀ cause, (marshal.marshal buffer).outcome = .error cause → payload = .error cause) ∧
      (∀ written, (marshal.marshal buffer).outcome = .ok written → written ≠ marshal.size →
        payload = .error (.sizeMismatch marshal.size written)) ∧
      ((marshal.marshal buffer).outcome = .ok marshal.size →
        payload = .ok (marshal.marshal buffer).buffer) := by
  intro payload
  have paid : payload = _ := encoder.payload_encodeSized reliable sized
  rw [paid]
  refine ⟨?_, ?_, ?_⟩
  · intro cause fails
    rw [fails]
  · intro written reports differs
    rw [reports]
    exact if_neg differs
  · intro reports
    rw [reports]
    exact if_pos rfl

theorem payload_encodeStructural (encoding : StructuralEncoding) :
    let payload := (encoder.encodeStructural encoding).payload
    (∀ cause, encoding.failure = some cause → payload = .error cause) ∧
      (encoding.failure = none → payload = .ok encoding.appended) := by
  intro payload
  refine ⟨fun cause fails => ?_, fun succeeds => ?_⟩
  · simp only [payload, encodeStructural, fails]
  · simp only [payload, encodeStructural, succeeds]

/-- In no state of the encoder is the payload another one. -/
theorem payload_encode_eq {message : WriteMessage}
    (reliable : ∀ marshal, message.capabilities.head? = some (.sized marshal) → marshal.IsReliable)
    (other : Encoder) : (encoder.encode message).payload = (other.encode message).payload := by
  rcases first : message.capabilities.head? with _ | marshal | encoding
  · rw [encoder.encode_of_incapable first, other.encode_of_incapable first]
  · have sized : (List.replicate marshal.size (0 : UInt8)).length = marshal.size :=
      List.length_replicate
    rw [encoder.encode_of_first first, other.encode_of_first first, encodeBy, encodeBy,
      encoder.payload_encodeSized (reliable marshal first) sized,
      other.payload_encodeSized (reliable marshal first) sized]
  · rw [encoder.encode_of_first first, other.encode_of_first first]
    rfl

/-- With a sized capability, nothing but the announced number of bytes is a
payload. -/
theorem length_of_payload_encodeSized {marshal : SizedMarshal} {bytes : Bytes}
    (payload : (encoder.encodeSized marshal).payload = .ok bytes) :
    bytes.length = marshal.size := by
  have held := Buffer.length_take_grow marshal.size encoder.buffer
  unfold encodeSized at payload
  simp only at payload
  split at payload
  · cases payload
  · split at payload
    · cases payload
      exact (marshal.length_marshal _).trans held
    · cases payload

end Encoder

/-! ## Requests under an announced size -/

namespace DecodedRequest

variable (request : DecodedRequest)

/-- The marshal of a request, which announces the size of its encoding. -/
def marshal : SizedMarshal := .ofEncoding request.encodedSize request.encode

variable {request} (fits : request.encodedSize < 2 ^ 64) (encoder : Encoder)
include fits

theorem payload_announcing_more {announced : Nat} (more : request.encodedSize < announced) :
    (encoder.encodeSized (request.marshal.announcing announced)).payload =
      .error (.sizeMismatch announced request.encodedSize) := by
  have held := Buffer.length_take_grow announced encoder.buffer
  have room : request.encodedSize ≤ announced := Nat.le_of_lt more
  have differs : request.encodedSize ≠ announced := Nat.ne_of_lt more
  simp only [Encoder.encodeSized, marshal, SizedMarshal.announcing, SizedMarshal.ofEncoding, held,
    if_pos room, length_encode fits, if_neg differs]

omit fits in
theorem payload_announcing_less {announced : Nat} (less : announced < request.encodedSize) :
    (encoder.encodeSized (request.marshal.announcing announced)).payload =
      .error (.protobuf request.encodedSize announced) := by
  have held := Buffer.length_take_grow announced encoder.buffer
  have noRoom : ¬request.encodedSize ≤ announced := Nat.not_le_of_lt less
  simp only [Encoder.encodeSized, marshal, SizedMarshal.announcing, SizedMarshal.ofEncoding, held,
    if_neg noRoom]

/-- Under its exact size a request is encoded, and under every other one the
error tells in which direction it is wrong. -/
theorem payload_announcing {announced : Nat} :
    let payload := (encoder.encodeSized (request.marshal.announcing announced)).payload
    ((∃ bytes, payload = .ok bytes) ↔ announced = request.encodedSize) ∧
      (announced = request.encodedSize → payload = .ok request.encode) ∧
      (request.encodedSize < announced →
        payload = .error (.sizeMismatch announced request.encodedSize)) ∧
      (announced < request.encodedSize →
        payload = .error (.protobuf request.encodedSize announced)) := by
  intro payload
  have more : request.encodedSize < announced → payload = _ :=
    payload_announcing_more fits encoder
  have less : announced < request.encodedSize → payload = _ := payload_announcing_less encoder
  have exactly : announced = request.encodedSize → payload = .ok request.encode := by
    rintro rfl
    exact encoder.payload_ofEncoding (length_encode fits)
  refine ⟨⟨?_, fun same => ⟨request.encode, exactly same⟩⟩, exactly, more, less⟩
  rintro ⟨bytes, paid⟩
  rcases Nat.lt_trichotomy announced request.encodedSize with below | same | above
  · cases paid.symm.trans (less below)
  · exact same
  · cases paid.symm.trans (more above)

end DecodedRequest

/-! ## Histories -/

namespace Encoder

/-- Within the largest capacity, only what is appended in parts can overflow a
new buffer. -/
theorem structural_of_overflows_new {message : WriteMessage} (overflows : new.Overflows message)
    (fits : ∀ needed ∈ message.lengths, needed ≤ Buffer.maxCapacity) :
    ∃ encoding, message.capabilities.head? = some (.structural encoding) := by
  rw [Overflows, (new.encode_eq message).2] at overflows
  rw [(new.encode_eq message).2] at fits
  rcases first : message.capabilities.head? with _ | marshal | encoding
  · rw [first] at overflows
    cases overflows
  · rw [first] at overflows fits
    cases overflows with
    | here lacks beyond =>
        have large := beyond.resolve_right (Nat.not_lt_zero _)
        exact absurd (fits _ List.mem_cons_self) (Nat.not_le_of_lt large)
    | later overflows => cases overflows
  · exact ⟨encoding, rfl⟩

/-- The payload of a message after any others is that of a new encoder, by the
first of the message's capabilities. A sized one yields the announced number of
bytes or an error; that of a request tells in which direction the announced
size is wrong. There is always room for the longest of all messages, and none
is given up. Only a message that needs more room than the buffer can get has no
outcome, and it needs more than half of what there can be. -/
theorem payload_after (history : List WriteMessage) (message : WriteMessage) :
    match new.after? history with
    | none => ∃ earlier stopping later reached, history = earlier ++ stopping :: later ∧
        new.after? earlier = some reached ∧ reached.Overflows stopping
    | some encoder =>
      match encoder.encode? message with
      | none => encoder.Overflows message ∧
          ∃ needed ∈ message.lengths, Buffer.maxCapacity < 2 * needed
      | some encoded =>
        let first? := message.capabilities.head?
        let payload := encoded.payload
        ¬ encoder.Overflows message ∧
        encoder.MakesRoom message encoded.encoder ∧
        encoded.encoder.capacity ≤ Buffer.maxCapacity ∧
        (∀ earlier ∈ history, ∀ needed ∈ earlier.lengths, needed ≤ encoded.encoder.capacity) ∧
        (match new.encode? message with
          | none => new.Overflows message ∧ ∃ encoding, first? = some (.structural encoding)
          | some fresh =>
            (∀ marshal, first? = some (.sized marshal) → marshal.IsReliable) →
              payload = fresh.payload) ∧
        (∀ marshal, first? = some (.sized marshal) → marshal.IsReliable →
          ∀ buffer : Bytes, buffer.length = marshal.size →
            (∀ cause, (marshal.marshal buffer).outcome = .error cause → payload = .error cause) ∧
            (∀ written, (marshal.marshal buffer).outcome = .ok written → written ≠ marshal.size →
              payload = .error (.sizeMismatch marshal.size written)) ∧
            ((marshal.marshal buffer).outcome = .ok marshal.size →
              payload = .ok (marshal.marshal buffer).buffer)) ∧
        (∀ marshal, first? = some (.sized marshal) →
          ∀ bytes, payload = .ok bytes → bytes.length = marshal.size) ∧
        (∀ encoding, first? = some (.structural encoding) →
          (∀ cause, encoding.failure = some cause → payload = .error cause) ∧
          (encoding.failure = none → payload = .ok encoding.appended)) ∧
        (first? = none → payload = .error (.unsupportedMessageType message.typeName)) ∧
        ∀ request : DecodedRequest, request.encodedSize < 2 ^ 64 → ∀ announced,
          (request.marshal.announcing announced).IsReliable ∧
          (first? = some (.sized (request.marshal.announcing announced)) →
            ((∃ bytes, payload = .ok bytes) ↔ announced = request.encodedSize) ∧
            (announced = request.encodedSize → payload = .ok request.encode) ∧
            (request.encodedSize < announced →
              payload = .error (.sizeMismatch announced request.encodedSize)) ∧
            (announced < request.encodedSize →
              payload = .error (.protobuf request.encodedSize announced))) := by
  cases runs : new.after? history with
  | none => exact overflows_of_after?_eq_none runs
  | some encoder =>
  rcases encoder.encode?_cases message with ⟨overflows, nothing⟩ | ⟨fits, encodes⟩
  · simp only [nothing]
    exact ⟨overflows, overflows.exceeds⟩
  simp only [encodes]
  obtain ⟨-, within, room⟩ := capacity_after? runs
  have made := encoder.makesRoom_encode message
  have bound : (encoder.encode message).encoder.capacity ≤ Buffer.maxCapacity := by
    rw [capacity_encode]
    exact Buffer.reserveAll_le_of_not_overflows fits (within (Nat.zero_le _))
  -- The payload is that of the first capability, whichever it is.
  have payload : ∀ {capability}, message.capabilities.head? = some capability →
      (encoder.encode message).payload = (encoder.encodeBy capability).payload := by
    intro capability first
    rw [encoder.encode_of_first first]
  refine ⟨fits, made, bound, ?_, ?_, ?_, ?_, ?_, ?_, ?_⟩
  · intro earlier member needed asked
    exact Nat.le_trans (room earlier member needed asked) made.kept
  · rcases new.encode?_cases message with ⟨overflows, nothing⟩ | ⟨-, encodes⟩
    · rw [nothing]
      exact ⟨overflows, structural_of_overflows_new overflows fun needed asked =>
        Nat.le_trans (made.enough needed asked) bound⟩
    · rw [encodes]
      exact fun reliable => encoder.payload_encode_eq reliable new
  · intro marshal first reliable buffer sized
    rw [payload first]
    exact encoder.payload_of_outcome reliable sized
  · intro marshal first bytes paid
    exact encoder.length_of_payload_encodeSized ((payload first).symm.trans paid)
  · intro encoding first
    rw [payload first]
    exact encoder.payload_encodeStructural encoding
  · intro incapable
    rw [encoder.encode_of_incapable incapable]
  · intro request fits announced
    have length := DecodedRequest.length_encode fits
    refine ⟨SizedMarshal.isReliable_ofEncoding length announced, fun first => ?_⟩
    rw [payload first]
    exact DecodedRequest.payload_announcing fits encoder

/-- A request by the alternate capability of a message that has a structural
one too, after one that filled the buffer, one whose encoding failed halfway,
and one that reported more than it wrote. -/
theorem payload_after_halfway :
    let request : DecodedRequest :=
      .v1 { timeseries := [{ labels := [⟨"job", "node"⟩], samples := [⟨⟨1⟩, -1⟩] }] }
    let long : WriteMessage :=
      { typeName := "long", sized := some (.ofBytes 60 (List.replicate 60 7) none) }
    let failing : WriteMessage :=
      { typeName := "failing"
        structural := some ⟨List.replicate 40 8, some (.protobuf 50 40), [10, 30]⟩ }
    let misreporting : WriteMessage :=
      { typeName := "misreporting", altSized := some (.ofBytes 70 (List.replicate 20 9) (some 71)) }
    let message : Nat → WriteMessage := fun announced =>
      { typeName := "alternate", altSized := some (request.marshal.announcing announced)
        structural := some { appended := [0xFF] } }
    request.encodedSize = 37 ∧
      ∃ encoder, new.after? [long, failing, misreporting] = some encoder ∧
        encoder.buffer.length = 70 ∧ encoder.capacity = 120 ∧
        (∃ encoded, encoder.encode? (message 37) = some encoded ∧
          encoded.payload = .ok request.encode ∧ encoded.encoder.capacity = 120) ∧
        (∃ fresh, new.encode? (message 37) = some fresh ∧ fresh.payload = .ok request.encode) ∧
        (∃ encoded, encoder.encode? (message 38) = some encoded ∧
          encoded.payload = .error (.sizeMismatch 38 37)) ∧
        (∃ encoded, encoder.encode? (message 36) = some encoded ∧
          encoded.payload = .error (.protobuf 37 36)) ∧
        encoder.encode? (message (2 ^ 63)) = none := by
  intro request long failing misreporting message
  have size : request.encodedSize = 37 := by decide
  have fits : request.encodedSize < 2 ^ 64 := by decide
  have first : ∀ announced, (message announced).capabilities.head? =
      some (.sized (request.marshal.announcing announced)) := fun _ => rfl
  let encoder := (((new.encode long).encoder.encode failing).encoder.encode misreporting).encoder
  have reached : new.after? [long, failing, misreporting] = some encoder := rfl
  have history := payload_after [long, failing, misreporting]
  simp only [reached] at history
  have fresh : new.encode? (message 37) = some (new.encode (message 37)) := rfl
  refine ⟨size, encoder, reached, by decide, by decide, ⟨_, rfl, ?_⟩, ⟨_, fresh, ?_⟩, ⟨_, rfl, ?_⟩,
    ⟨_, rfl, ?_⟩, ?_⟩
  · obtain ⟨-, made, -, -, -, -, -, -, -, announcing⟩ := history (message 37)
    exact ⟨((announcing request fits 37).2 (first 37)).2.1 size.symm, made.unchanged (by decide)⟩
  · obtain ⟨-, -, -, -, same, -, -, -, -, announcing⟩ := history (message 37)
    obtain ⟨reliable, exactly⟩ := announcing request fits 37
    rw [fresh] at same
    refine (same fun marshal offered => ?_).symm.trans ((exactly (first 37)).2.1 size.symm)
    cases (first 37).symm.trans offered
    exact reliable
  · obtain ⟨-, -, -, -, -, -, -, -, -, announcing⟩ := history (message 38)
    have more := ((announcing request fits 38).2 (first 38)).2.2.1
    rw [size] at more
    exact more (by decide)
  · obtain ⟨-, -, -, -, -, -, -, -, -, announcing⟩ := history (message 36)
    have less := ((announcing request fits 36).2 (first 36)).2.2.2
    rw [size] at less
    exact less (by decide)
  · have large := history (message (2 ^ 63))
    cases encodes : encoder.encode? (message (2 ^ 63)) with
    | none => rfl
    | some encoded =>
        rw [encodes] at large
        obtain ⟨-, made, bound, -⟩ := large
        have room := Nat.le_trans (made.enough (2 ^ 63) List.mem_cons_self) bound
        exact absurd room (by decide)

end Encoder
end RemoteWrite
