import RemoteWrite.Proofs.Message.Locality
import RemoteWrite.Proofs.Stats.Contents
import RemoteWrite.Proofs.Wire.Growth

/-!
Contract: what a payload decodes to is counted without overflow.

Payloads may have any form that the decoder accepts. Still, every sample,
histogram, and exemplar was read from at least one byte.

Owns:
- the contents of a decoded request, bounded by the length of its payload;
- the stats of a decoded request as exact numbers.

Does not own: requests that are encoded, which are bounded by their size.
-/

namespace RemoteWrite

open Wire

/-! ## Contents of series -/

theorem V1.TimeSeries.bounds_count (counter : Counter) (budget : Nat) :
    Bounds (count · counter) (V1.TimeSeries.schema.mergeNext budget) := by
  refine Schema.bounds_of_fields ?_ budget
  simp only [schema, List.forall_mem_cons]
  refine ⟨Field.bounds_of_unchanged (Label.schema_isLocal.repeated 1) fun labels series => ?labels,
    Sample.schema_isLocal.bounds_repeated fun sample series => ?samples,
    Exemplar.schema_isLocal.bounds_repeated fun exemplar series => ?exemplars,
    Histogram.schema_isLocal.bounds_repeated fun histogram series => ?histograms,
    List.forall_mem_nil _⟩
  all_goals cases counter <;> simp [count]

theorem V2.TimeSeries.bounds_count (counter : Counter) (budget : Nat) :
    Bounds (count · counter) (V2.TimeSeries.schema.mergeNext budget) := by
  refine Schema.bounds_of_fields ?_ budget
  simp only [schema, List.forall_mem_cons]
  refine ⟨Field.bounds_of_unchanged (labelRefs_isLocal 1) fun labelRefs series => ?labelRefs,
    Sample.schema_isLocal.bounds_repeated fun sample series => ?samples,
    Histogram.schema_isLocal.bounds_repeated fun histogram series => ?histograms,
    Exemplar.schema_isLocal.bounds_repeated fun exemplar series => ?exemplars,
    Field.bounds_of_unchanged (Metadata.schema_isLocal.optional 5) fun metadata series => ?metadata,
    Field.bounds_of_unchanged FieldForm.varint_isLocal fun created series => ?created,
    List.forall_mem_nil _⟩
  all_goals cases counter <;> simp [count]

/-! ## Contents of requests -/

/-- The contents of a list of series are bounded if those of every series are. -/
theorem Wire.Schema.bounds_sum {S : Type} {schema : Schema S} {count : S → Nat}
    (bounds : ∀ budget, Bounds count (schema.mergeNext budget)) (empty : count schema.empty = 0)
    {number budget : Nat} {key : Key} {series merged : List S} {input rest : Input}
    (accepted : (schema.repeated number).merge budget key series input = .ok (merged, rest)) :
    (merged.map count).sum + rest.size ≤ (series.map count).sum + input.size := by
  obtain ⟨added, rfl, nested⟩ := repeated_merged accepted
  have raised := mergeNested_le bounds nested
  rw [List.map_append, List.sum_append, List.map_singleton, List.sum_singleton]
  omega

theorem V1.WriteRequest.bounds_count (counter : Counter) (budget : Nat) :
    Bounds (fun request => DecodedRequest.count counter (.v1 request))
      (V1.WriteRequest.schema.mergeNext budget) := by
  refine Schema.bounds_of_fields ?_ budget
  simp only [schema, List.forall_mem_cons]
  refine ⟨fun budget key request input merged rest accepted => ?_,
    Field.bounds_of_unchanged (Metadata.schema_isLocal.repeated 3) fun _ _ => rfl,
    List.forall_mem_nil _⟩
  exact Schema.bounds_sum (TimeSeries.bounds_count counter) (by cases counter <;> rfl) accepted

theorem V2.Request.bounds_count (counter : Counter) (budget : Nat) :
    Bounds (fun request => DecodedRequest.count counter (.v2 request))
      (V2.Request.schema.mergeNext budget) := by
  refine Schema.bounds_of_fields ?_ budget
  simp only [schema, List.forall_mem_cons]
  refine ⟨Field.bounds_of_unchanged (FieldForm.repeated_isLocal Scalar.text_isLocal 4)
      fun _ _ => rfl,
    fun budget key request input merged rest accepted => ?_, List.forall_mem_nil _⟩
  exact Schema.bounds_sum (TimeSeries.bounds_count counter) (by cases counter <;> rfl) accepted

namespace DecodedRequest

theorem decode_v1_eq_ok_iff {payload : Bytes} {request : DecodedRequest} :
    decode .v1 payload = .ok request ↔
      ∃ decoded, V1.WriteRequest.schema.decode payload = .ok decoded ∧ request = v1 decoded := by
  simp only [decode]
  rcases V1.WriteRequest.schema.decode payload with cause | decoded <;> simp [eq_comm]

theorem decode_v2_eq_ok_iff {payload : Bytes} {request : DecodedRequest} :
    decode .v2 payload = .ok request ↔
      ∃ decoded, V2.Request.schema.decode payload = .ok decoded ∧ request = v2 decoded := by
  simp only [decode]
  rcases V2.Request.schema.decode payload with cause | decoded <;> simp [eq_comm]

/-- A payload is at least as long as its request has contents. -/
theorem count_le_length {protocol : Protocol} {payload : Bytes} {request : DecodedRequest}
    (decoded : decode protocol payload = .ok request) (counter : Counter) :
    request.count counter ≤ payload.length := by
  cases protocol with
  | v1 =>
      obtain ⟨message, read, rfl⟩ := decode_v1_eq_ok_iff.mp decoded
      have bound := Schema.measure_le_of_decode (V1.WriteRequest.bounds_count counter _) read
      exact Nat.le_trans bound (Nat.le_of_eq (Nat.zero_add _))
  | v2 =>
      obtain ⟨message, read, rfl⟩ := decode_v2_eq_ok_iff.mp decoded
      have bound := Schema.measure_le_of_decode (V2.Request.bounds_count counter _) read
      exact Nat.le_trans bound (Nat.le_of_eq (Nat.zero_add _))

end DecodedRequest
end RemoteWrite
