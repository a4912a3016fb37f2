import RemoteWrite.Proofs.Encoder
import RemoteWrite.Proofs.Message.Locality

/-!
Contract: an encoding that is cut off is never taken for another request, but
for the complete records in front of the cut.

Owns:
- the top-level records of an encoding, and the request of the first of them;
- the decoding of an encoding that is cut off.

Does not own: encodings in other forms.
-/

namespace RemoteWrite

open Wire

namespace DecodedRequest

/-! ## Records of an encoding -/

/-- The top-level records of the encoding: one for each series and metadata entry of a 1.0 request,
and one for each symbol and series of a 2.0 request. -/
def records : DecodedRequest → List Bytes
  | v1 request =>
    request.timeseries.map (V1.TimeSeries.schema.writeNested 1) ++
      request.metadata.map (V1.Metadata.schema.writeNested 3)
  | v2 request =>
    request.symbols.map (Scalar.text.writeRecord 4) ++
      request.timeseries.map (V2.TimeSeries.schema.writeNested 5)

/-- The request of the first records only. -/
def takeRecords (count : Nat) : DecodedRequest → DecodedRequest
  | v1 request =>
    v1 { timeseries := request.timeseries.take count
         metadata := request.metadata.take (count - request.timeseries.length) }
  | v2 request =>
    v2 { symbols := request.symbols.take count
         timeseries := request.timeseries.take (count - request.symbols.length) }

/-- Where the first records of the encoding end. -/
def boundary (request : DecodedRequest) (count : Nat) : Nat :=
  (request.records.take count).flatten.length

theorem flatten_records (request : DecodedRequest) : request.records.flatten = request.encode := by
  cases request with
  | v1 request =>
      show _ = (_ ++ (_ ++ []) : Bytes)
      rw [records, List.flatten_append, List.append_nil]
      rfl
  | v2 request =>
      show _ = (_ ++ (_ ++ []) : Bytes)
      rw [records, List.flatten_append, List.append_nil]
      rfl

theorem records_takeRecords (request : DecodedRequest) (count : Nat) :
    (request.takeRecords count).records = request.records.take count := by
  cases request <;>
    simp only [takeRecords, records, List.take_append, List.map_take, List.length_map]

theorem protocol_takeRecords (request : DecodedRequest) (count : Nat) :
    (request.takeRecords count).protocol = request.protocol := by
  cases request <;> rfl

theorem canonical_takeRecords (request : DecodedRequest) (count : Nat) :
    (request.takeRecords count).canonical = request.canonical.takeRecords count := by
  cases request <;>
    simp only [takeRecords, canonical, V1.WriteRequest.canonical, V2.Request.canonical,
      List.map_take, List.length_map]

/-- A part of a list is not larger than the list. -/
private theorem sum_map_take_le {α : Type} (size : α → Nat) (values : List α) (count : Nat) :
    ((values.take count).map size).sum ≤ (values.map size).sum := by
  have parts := List.sum_take_add_sum_drop (values.map size) count
  rw [List.map_take]
  omega

theorem encodedSize_takeRecords_le (request : DecodedRequest) (count : Nat) :
    (request.takeRecords count).encodedSize ≤ request.encodedSize := by
  cases request with
  | v1 request =>
      have series := sum_map_take_le (V1.TimeSeries.schema.nestedSize 1) request.timeseries count
      have metadata := sum_map_take_le (V1.Metadata.schema.nestedSize 3) request.metadata
        (count - request.timeseries.length)
      exact Nat.add_le_add series (Nat.add_le_add_right metadata 0)
  | v2 request =>
      have symbols := sum_map_take_le (Scalar.text.recordSize 4) request.symbols count
      have series := sum_map_take_le (V2.TimeSeries.schema.nestedSize 5) request.timeseries
        (count - request.symbols.length)
      exact Nat.add_le_add symbols (Nat.add_le_add_right series 0)

/-- The first records are the encoding of the request that they make up. -/
theorem take_boundary (request : DecodedRequest) (count : Nat) :
    request.encode.take (request.boundary count) = (request.takeRecords count).encode := by
  have split := congrArg List.flatten (List.take_append_drop count request.records)
  rw [List.flatten_append, flatten_records] at split
  rw [← flatten_records (request.takeRecords count), records_takeRecords, ← split, boundary,
    List.take_left]

end DecodedRequest

/-! ## Runs over the records -/

theorem V1.WriteRequest.run_records {request : V1.WriteRequest}
    (fits : V1.WriteRequest.schema.size request < 2 ^ 64) :
    ∃ final, Run (Steps (V1.WriteRequest.schema.mergeNext Schema.recursionLimit))
      V1.WriteRequest.schema.empty (DecodedRequest.v1 request).records final := by
  have total : (request.timeseries.map (V1.TimeSeries.schema.nestedSize 1)).sum +
      ((request.metadata.map (V1.Metadata.schema.nestedSize 3)).sum + 0) < 2 ^ 64 := fits
  have seriesRun : Run ((V1.TimeSeries.schema.repeated 1).Merges Schema.recursionLimit) []
      (request.timeseries.map (V1.TimeSeries.schema.writeNested 1))
      (request.timeseries.map V1.TimeSeries.canonical) :=
    V1.TimeSeries.schema_faithful.run_repeated (by decide) (by decide) (by omega)
  have metadataRun : Run ((V1.Metadata.schema.repeated 3).Merges Schema.recursionLimit) []
      (request.metadata.map (V1.Metadata.schema.writeNested 3))
      (request.metadata.map id) :=
    V1.Metadata.schema_faithful.run_repeated (by decide) (by decide) (by omega)
  have timeseries : _ ∈ V1.WriteRequest.schema.fields := List.mem_cons_self
  have metadata : _ ∈ V1.WriteRequest.schema.fields := List.mem_cons_of_mem _ List.mem_cons_self
  exact ⟨_, (Schema.run_of_merges timeseries seriesRun {}).append
    (Schema.run_of_merges metadata metadataRun
      { timeseries := request.timeseries.map V1.TimeSeries.canonical })⟩

theorem V2.Request.run_records {request : V2.Request}
    (fits : V2.Request.schema.size request < 2 ^ 64) :
    ∃ final, Run (Steps (V2.Request.schema.mergeNext Schema.recursionLimit))
      V2.Request.schema.empty (DecodedRequest.v2 request).records final := by
  have total : (request.symbols.map (Scalar.text.recordSize 4)).sum +
      ((request.timeseries.map (V2.TimeSeries.schema.nestedSize 5)).sum + 0) < 2 ^ 64 := fits
  have symbolRun : Run ((FieldForm.repeated Scalar.text 4).Merges Schema.recursionLimit) []
      (request.symbols.map (Scalar.text.writeRecord 4)) request.symbols :=
    FieldForm.run_repeated Scalar.text_lawful (by decide) (by omega)
  have seriesRun : Run ((V2.TimeSeries.schema.repeated 5).Merges Schema.recursionLimit) []
      (request.timeseries.map (V2.TimeSeries.schema.writeNested 5))
      (request.timeseries.map V2.TimeSeries.canonical) :=
    V2.TimeSeries.schema_faithful.run_repeated (by decide) (by decide) (by omega)
  have symbols : _ ∈ V2.Request.schema.fields := List.mem_cons_self
  have timeseries : _ ∈ V2.Request.schema.fields := List.mem_cons_of_mem _ List.mem_cons_self
  exact ⟨_, (Schema.run_of_merges symbols symbolRun {}).append
    (Schema.run_of_merges timeseries seriesRun { symbols := request.symbols })⟩

namespace DecodedRequest

/-! ## Encodings that are cut off -/

/-- A cut that is not the end of a record is an error. -/
theorem decode_cut {request : DecodedRequest} (fits : request.encodedSize < 2 ^ 64) {length : Nat}
    (short : length ≤ request.encode.length)
    (inside : ∀ count, length ≠ request.boundary count) :
    ∃ cause, decode request.protocol (request.encode.take length) =
      .error ⟨request.protocol, cause⟩ := by
  rw [← flatten_records] at short ⊢
  cases request with
  | v1 request =>
      obtain ⟨final, run⟩ := V1.WriteRequest.run_records fits
      obtain ⟨cause, failed⟩ := V1.WriteRequest.schema_isLocal.decodeOnto_cut run short inside
      exact ⟨cause, by simp only [protocol, decode, Schema.decode_eq_decodeOnto, failed]⟩
  | v2 request =>
      obtain ⟨final, run⟩ := V2.Request.run_records fits
      obtain ⟨cause, failed⟩ := V2.Request.schema_isLocal.decodeOnto_cut run short inside
      exact ⟨cause, by simp only [protocol, decode, Schema.decode_eq_decodeOnto, failed]⟩

/-- An encoding that ends with a record decodes to the records in front of the end. -/
theorem decode_boundary {request : DecodedRequest} (fits : request.encodedSize < 2 ^ 64)
    (count : Nat) :
    decode request.protocol (request.encode.take (request.boundary count)) =
      .ok (request.canonical.takeRecords count) := by
  have bound := Nat.lt_of_le_of_lt (encodedSize_takeRecords_le request count) fits
  have decoded := decode_encode bound
  rwa [protocol_takeRecords, ← take_boundary, canonical_takeRecords] at decoded

/-- An encoding that is cut off decodes if and only if the cut is the end of a record, or at the
very front. It then yields the canonical request of the complete records. -/
theorem decode_truncated {request : DecodedRequest} (fits : request.encodedSize < 2 ^ 64)
    {length : Nat} (short : length < request.encode.length) :
    ((∃ message, decode request.protocol (request.encode.take length) = .ok message) ↔
      ∃ count, length = request.boundary count) ∧
    (∀ count, length = request.boundary count →
      decode request.protocol (request.encode.take length) =
        .ok (request.canonical.takeRecords count)) ∧
    ((∀ count, length ≠ request.boundary count) →
      ∃ cause, decode request.protocol (request.encode.take length) =
        .error ⟨request.protocol, cause⟩) := by
  have atBoundary : ∀ count, length = request.boundary count →
      decode request.protocol (request.encode.take length) =
        .ok (request.canonical.takeRecords count) := by
    rintro count rfl
    exact decode_boundary fits count
  have inside := decode_cut fits (Nat.le_of_lt short)
  refine ⟨⟨?_, ?_⟩, atBoundary, inside⟩
  · rintro ⟨message, decoded⟩
    by_contra none
    obtain ⟨cause, failed⟩ := inside (not_exists.mp none)
    rw [failed] at decoded
    contradiction
  · rintro ⟨count, reached⟩
    exact ⟨_, atBoundary count reached⟩

/-- A series and a metadata entry, cut between the two and in the middle of the entry. The series
has a negative zero. -/
theorem decode_truncated_metadata :
    let sample : Sample := { value := ⟨0x8000000000000000⟩, timestamp := 7 }
    let request : DecodedRequest :=
      .v1 { timeseries := [{ samples := [sample] }], metadata := [{ metricType := 1 }] }
    request.encodedSize < 2 ^ 64 ∧
      request.encode = [0x0a, 0x04, 0x12, 0x02, 0x10, 0x07, 0x1a, 0x02, 0x08, 0x01] ∧
      decode .v1 (request.encode.take 6) =
        .ok (.v1 { timeseries := [{ samples := [{ timestamp := 7 }] }] }) ∧
      ∃ cause, decode .v1 (request.encode.take 8) = .error ⟨.v1, cause⟩ := by
  intro sample request
  have fits : request.encodedSize < 2 ^ 64 := by decide
  have encoding : request.encode =
      [0x0a, 0x04, 0x12, 0x02, 0x10, 0x07, 0x1a, 0x02, 0x08, 0x01] := by decide +kernel
  have length : request.encode.length = 10 := congrArg List.length encoding
  have between : 6 = request.boundary 1 := by decide +kernel
  have inside : ∀ count, 8 ≠ request.boundary count := by
    rintro (_ | _ | count)
    · decide
    · decide +kernel
    · have all : request.boundary (count + 2) = 10 := by
        rw [boundary, List.take_of_length_le (Nat.le_add_left 2 count), flatten_records, length]
      rw [all]
      decide
  exact ⟨fits, encoding, (decode_truncated fits (by omega)).2.1 1 between,
    (decode_truncated fits (by omega)).2.2 inside⟩

end DecodedRequest
end RemoteWrite
