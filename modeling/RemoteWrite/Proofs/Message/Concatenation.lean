import RemoteWrite.Proofs.Stats.Payload
import RemoteWrite.Proofs.Wire.Decoding

/-!
Contract: payloads are concatenated as their requests are.

All fields of a request are lists, to which every record appends. So a payload
behind another one is decoded as if it stood alone, and what it yields is
appended to what was there.

Owns:
- the concatenation of two requests of one protocol, and its stats;
- the decoding of concatenated payloads, with the failures of the second one.

Does not own: failures of the first payload, which the second one may mend.
-/

namespace RemoteWrite

open Wire

/-! ## Concatenated requests -/

namespace V1

instance : Append WriteRequest where
  append first second :=
    { timeseries := first.timeseries ++ second.timeseries
      metadata := first.metadata ++ second.metadata }

theorem WriteRequest.append_empty (request : WriteRequest) :
    request ++ ({} : WriteRequest) = request := by
  show WriteRequest.mk _ _ = _
  rw [List.append_nil, List.append_nil]

theorem WriteRequest.fields_append : ∀ field ∈ WriteRequest.schema.fields,
    ∃ join, field.Appends (· ++ ·) join := by
  simp only [schema, List.forall_mem_cons]
  exact ⟨⟨_, ⟨fun _ _ => rfl, fun _ _ _ => rfl, TimeSeries.schema.repeated_appends 1⟩⟩,
    ⟨_, ⟨fun _ _ => rfl, fun _ _ _ => rfl, Metadata.schema.repeated_appends 3⟩⟩,
    List.forall_mem_nil _⟩

end V1

namespace V2

instance : Append Request where
  append first second :=
    { symbols := first.symbols ++ second.symbols
      timeseries := first.timeseries ++ second.timeseries }

theorem Request.append_empty (request : Request) : request ++ ({} : Request) = request := by
  show Request.mk _ _ = _
  rw [List.append_nil, List.append_nil]

theorem Request.fields_append : ∀ field ∈ Request.schema.fields,
    ∃ join, field.Appends (· ++ ·) join := by
  simp only [schema, List.forall_mem_cons]
  exact ⟨⟨_, ⟨fun _ _ => rfl, fun _ _ _ => rfl, FieldForm.repeated_appends .text 4⟩⟩,
    ⟨_, ⟨fun _ _ => rfl, fun _ _ _ => rfl, TimeSeries.schema.repeated_appends 5⟩⟩,
    List.forall_mem_nil _⟩

end V2

namespace DecodedRequest

/-- Two requests of one protocol as one, field by field. -/
def append? : DecodedRequest → DecodedRequest → Option DecodedRequest
  | v1 first, v1 second => some (v1 (first ++ second))
  | v2 first, v2 second => some (v2 (first ++ second))
  | _, _ => none

theorem count_append {first second whole : DecodedRequest}
    (appended : first.append? second = some whole) (counter : Counter) :
    whole.count counter = first.count counter + second.count counter := by
  cases first <;> cases second <;> simp only [append?, Option.some.injEq, reduceCtorEq] at appended
  · subst appended
    show ((_ ++ _ : List V1.TimeSeries).map _).sum = _
    rw [List.map_append, List.sum_append]
    rfl
  · subst appended
    show ((_ ++ _ : List V2.TimeSeries).map _).sum = _
    rw [List.map_append, List.sum_append]
    rfl

/-- Behind a payload that decodes, another one decodes as it does alone. -/
theorem decode_behind {protocol : Protocol} {front : Bytes} {request : DecodedRequest}
    (decoded : decode protocol front = .ok request) (rest : Bytes) :
    (∀ other, decode protocol rest = .ok other → ∃ whole, request.append? other = some whole ∧
      decode protocol (front ++ rest) = .ok whole) ∧
    ∀ error, decode protocol rest = .error error →
      decode protocol (front ++ rest) = .error error := by
  cases protocol with
  | v1 =>
      obtain ⟨message, read, rfl⟩ := decode_v1_eq_ok_iff.mp decoded
      have appended := V1.WriteRequest.schema_isLocal.decode_concat V1.WriteRequest.fields_append
        V1.WriteRequest.append_empty read rest
      simp only [decode, appended]
      rcases V1.WriteRequest.schema.decode rest with cause | other
      · refine ⟨?_, fun _ failed => failed⟩
        intro second accepted
        contradiction
      · constructor
        · intro second accepted
          rw [← Except.ok.inj accepted]
          exact ⟨_, rfl, rfl⟩
        · intro error failed
          contradiction
  | v2 =>
      obtain ⟨message, read, rfl⟩ := decode_v2_eq_ok_iff.mp decoded
      have appended := V2.Request.schema_isLocal.decode_concat V2.Request.fields_append
        V2.Request.append_empty read rest
      simp only [decode, appended]
      rcases V2.Request.schema.decode rest with cause | other
      · refine ⟨?_, fun _ failed => failed⟩
        intro second accepted
        contradiction
      · constructor
        · intro second accepted
          rw [← Except.ok.inj accepted]
          exact ⟨_, rfl, rfl⟩
        · intro error failed
          contradiction

/-- Concatenated payloads decode to the concatenation of their requests, whose counters are the
sums of theirs. They decode if and only if the second one does, and fail as it does. -/
theorem decode_append {protocol : Protocol} {front : Bytes} {request : DecodedRequest}
    (decoded : decode protocol front = .ok request) (rest : Bytes) :
    (∀ other, decode protocol rest = .ok other → ∃ whole, request.append? other = some whole ∧
      decode protocol (front ++ rest) = .ok whole ∧ ∀ counter : Counter,
        counter.read (.ofRequest whole) =
          counter.read (.ofRequest request) + counter.read (.ofRequest other) ∧
        ((front ++ rest).length < 2 ^ 64 → (counter.read (.ofRequest whole)).toNat =
          (counter.read (.ofRequest request)).toNat + (counter.read (.ofRequest other)).toNat)) ∧
    ∀ error, decode protocol rest = .error error →
      decode protocol (front ++ rest) = .error error := by
  obtain ⟨accepted, failed⟩ := decode_behind decoded rest
  refine ⟨fun other decodedOther => ?_, failed⟩
  obtain ⟨whole, appended, decodedWhole⟩ := accepted other decodedOther
  refine ⟨whole, appended, decodedWhole, fun counter => ?_⟩
  have sum := count_append appended counter
  have bound := count_le_length decodedWhole counter
  rw [read_ofRequest, read_ofRequest, read_ofRequest]
  constructor
  · rw [sum, UInt64.ofNat_add]
  · intro addressable
    rw [UInt64.toNat_ofNat', UInt64.toNat_ofNat', UInt64.toNat_ofNat', Nat.mod_eq_of_lt (by omega),
      Nat.mod_eq_of_lt (by omega), Nat.mod_eq_of_lt (by omega), sum]

/-- A group of an undeclared field and a series under a padded key and length: in front of another
series, and in front of one whose sample is cut off. -/
theorem decode_append_padded :
    let front : Bytes := [0x3b, 0x08, 0x80, 0x00, 0x3c, 0x8a, 0x00, 0x82, 0x00, 0x12, 0x00]
    let series : Bytes := [0x0a, 0x04, 0x12, 0x02, 0x10, 0x05]
    let cut : Bytes := [0x0a, 0x0b, 0x12, 0x09, 0x09, 1, 2, 3]
    let request : DecodedRequest := .v1 { timeseries := [{ samples := [{}] }] }
    let other : DecodedRequest := .v1 { timeseries := [{ samples := [{ timestamp := 5 }] }] }
    let error : PayloadError := ⟨.v1, ⟨[⟨"WriteRequest", "timeseries"⟩], .underflow⟩⟩
    decode .v1 front = .ok request ∧ decode .v1 series = .ok other ∧
      decode .v1 cut = .error error ∧
      (∃ whole, request.append? other = some whole ∧ decode .v1 (front ++ series) = .ok whole ∧
        (Counter.samples.read (.ofRequest whole)).toNat = 1 + 1) ∧
      decode .v1 (front ++ cut) = .error error := by
  intro front series cut request other error
  have decoded : decode .v1 front = .ok request := by decide +kernel
  have decodedSeries : decode .v1 series = .ok other := by decide +kernel
  have failing : decode .v1 cut = .error error := by decide +kernel
  obtain ⟨whole, appended, decodedWhole, counters⟩ :=
    (decode_append decoded series).1 other decodedSeries
  exact ⟨decoded, decodedSeries, failing,
    ⟨whole, appended, decodedWhole, (counters .samples).2 (by decide)⟩,
    (decode_append decoded cut).2 error failing⟩

end DecodedRequest
end RemoteWrite
