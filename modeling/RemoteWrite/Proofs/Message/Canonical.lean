import RemoteWrite.Message.Decoded
import RemoteWrite.Proofs.Wire.Schema

/-!
Contract: messages come back from their encodings, but for the sign of zeros.

A plain field is left out if it compares equal to zero, so a negative zero
comes back as a positive one. Everything else is kept bit for bit: the payload
of a NaN, and negative zeros among alternatives and in repeated fields.

Owns:
- the canonical form of every message;
- the laws of the schemas of both protocols.

Does not own: the encoder and the decoder of requests.
-/

namespace RemoteWrite

open Wire

/-! ## Canonical forms -/

namespace Sample

def canonical (sample : Sample) : Sample :=
  { sample with value := sample.value.positiveZero }

end Sample

namespace Histogram

def canonical (histogram : Histogram) : Histogram :=
  { histogram with
    sum := histogram.sum.positiveZero
    zeroThreshold := histogram.zeroThreshold.positiveZero }

end Histogram

namespace V1

def Exemplar.canonical (exemplar : Exemplar) : Exemplar :=
  { exemplar with value := exemplar.value.positiveZero }

def TimeSeries.canonical (series : TimeSeries) : TimeSeries :=
  { series with
    samples := series.samples.map Sample.canonical
    exemplars := series.exemplars.map Exemplar.canonical
    histograms := series.histograms.map Histogram.canonical }

def WriteRequest.canonical (request : WriteRequest) : WriteRequest :=
  { request with timeseries := request.timeseries.map TimeSeries.canonical }

end V1

namespace V2

def Exemplar.canonical (exemplar : Exemplar) : Exemplar :=
  { exemplar with value := exemplar.value.positiveZero }

def TimeSeries.canonical (series : TimeSeries) : TimeSeries :=
  { series with
    samples := series.samples.map Sample.canonical
    histograms := series.histograms.map Histogram.canonical
    exemplars := series.exemplars.map Exemplar.canonical }

def Request.canonical (request : Request) : Request :=
  { request with timeseries := request.timeseries.map TimeSeries.canonical }

end V2

/-- A request with the negative zeros of its plain fields made positive. -/
def DecodedRequest.canonical : DecodedRequest → DecodedRequest
  | v1 request => v1 request.canonical
  | v2 request => v2 request.canonical

/-! ## Laws of the shared schemas -/

theorem Sample.schema_faithful : Sample.schema.Faithful 0 Sample.canonical := by
  refine Schema.faithful_of_fields ?_
  simp only [Sample.schema, List.forall_mem_cons]
  exact ⟨⟨_, FieldForm.double_faithful (by decide), fun _ => rfl⟩,
    ⟨_, FieldForm.zero_faithful Scalar.int64_lawful (by decide), fun _ => rfl⟩,
    List.forall_mem_nil _⟩

theorem BucketSpan.schema_faithful : BucketSpan.schema.Faithful 0 id := by
  refine Schema.faithful_of_fields ?_
  simp only [BucketSpan.schema, List.forall_mem_cons]
  exact ⟨⟨_, FieldForm.zero_faithful Scalar.sint32_lawful (by decide), fun _ => rfl⟩,
    ⟨_, FieldForm.zero_faithful Scalar.uint32_lawful (by decide), fun _ => rfl⟩,
    List.forall_mem_nil _⟩

theorem Count.form_faithful {intNumber floatNumber : Nat} (intKnown : Key.IsNumber intNumber)
    (floatKnown : Key.IsNumber floatNumber) (different : floatNumber ≠ intNumber) :
    (Count.form intNumber floatNumber).Faithful 0 id := by
  refine FieldForm.oneOf_faithful Scalar.uint64_lawful Scalar.double_lawful intKnown floatKnown
    different fun count => ?_
  cases count <;> rfl

theorem Histogram.schema_faithful : Histogram.schema.Faithful 1 Histogram.canonical := by
  have deltas {number : Nat} (known : Key.IsNumber number) :
      (FieldForm.packed .sint64 number).Faithful 1 id :=
    (FieldForm.packed_faithful Scalar.sint64_lawful known).mono (by decide)
  have counts {number : Nat} (known : Key.IsNumber number) :
      (FieldForm.packed .double number).Faithful 1 id :=
    (FieldForm.packed_faithful Scalar.double_lawful known).mono (by decide)
  refine Schema.faithful_of_fields ?_
  simp only [Histogram.schema, List.forall_mem_cons]
  exact ⟨⟨_, (Count.form_faithful (by decide) (by decide) (by decide)).mono (by decide),
      fun _ => rfl⟩,
    ⟨_, FieldForm.double_faithful (by decide), fun _ => rfl⟩,
    ⟨_, FieldForm.zero_faithful Scalar.sint32_lawful (by decide), fun _ => rfl⟩,
    ⟨_, FieldForm.double_faithful (by decide), fun _ => rfl⟩,
    ⟨_, (Count.form_faithful (by decide) (by decide) (by decide)).mono (by decide),
      fun _ => rfl⟩,
    ⟨_, BucketSpan.schema_faithful.repeated_id (by decide), fun _ => rfl⟩,
    ⟨_, deltas (by decide), fun _ => rfl⟩,
    ⟨_, counts (by decide), fun _ => rfl⟩,
    ⟨_, BucketSpan.schema_faithful.repeated_id (by decide), fun _ => rfl⟩,
    ⟨_, deltas (by decide), fun _ => rfl⟩,
    ⟨_, counts (by decide), fun _ => rfl⟩,
    ⟨_, FieldForm.zero_faithful Scalar.int32_lawful (by decide), fun _ => rfl⟩,
    ⟨_, FieldForm.zero_faithful Scalar.int64_lawful (by decide), fun _ => rfl⟩,
    ⟨_, counts (by decide), fun _ => rfl⟩,
    List.forall_mem_nil _⟩

/-! ## Laws of the schemas of the 1.0 protocol -/

namespace V1

theorem Label.schema_faithful : Label.schema.Faithful 0 id := by
  refine Schema.faithful_of_fields ?_
  simp only [Label.schema, List.forall_mem_cons]
  exact ⟨⟨_, FieldForm.emptyText_faithful (by decide), fun _ => rfl⟩,
    ⟨_, FieldForm.emptyText_faithful (by decide), fun _ => rfl⟩,
    List.forall_mem_nil _⟩

theorem Exemplar.schema_faithful : Exemplar.schema.Faithful 1 Exemplar.canonical := by
  refine Schema.faithful_of_fields ?_
  simp only [Exemplar.schema, List.forall_mem_cons]
  exact ⟨⟨_, Label.schema_faithful.repeated_id (by decide), fun _ => rfl⟩,
    ⟨_, FieldForm.double_faithful (by decide), fun _ => rfl⟩,
    ⟨_, FieldForm.zero_faithful Scalar.int64_lawful (by decide), fun _ => rfl⟩,
    List.forall_mem_nil _⟩

theorem TimeSeries.schema_faithful : TimeSeries.schema.Faithful 2 TimeSeries.canonical := by
  refine Schema.faithful_of_fields ?_
  simp only [TimeSeries.schema, List.forall_mem_cons]
  exact ⟨⟨_, (Label.schema_faithful.repeated_id (by decide)).mono (by decide), fun _ => rfl⟩,
    ⟨_, (Sample.schema_faithful.repeated (by decide)).mono (by decide), fun _ => rfl⟩,
    ⟨_, Exemplar.schema_faithful.repeated (by decide), fun _ => rfl⟩,
    ⟨_, Histogram.schema_faithful.repeated (by decide), fun _ => rfl⟩,
    List.forall_mem_nil _⟩

theorem Metadata.schema_faithful : Metadata.schema.Faithful 0 id := by
  refine Schema.faithful_of_fields ?_
  simp only [Metadata.schema, List.forall_mem_cons]
  exact ⟨⟨_, FieldForm.zero_faithful Scalar.int32_lawful (by decide), fun _ => rfl⟩,
    ⟨_, FieldForm.emptyText_faithful (by decide), fun _ => rfl⟩,
    ⟨_, FieldForm.emptyText_faithful (by decide), fun _ => rfl⟩,
    ⟨_, FieldForm.emptyText_faithful (by decide), fun _ => rfl⟩,
    List.forall_mem_nil _⟩

theorem WriteRequest.schema_faithful :
    WriteRequest.schema.Faithful 3 WriteRequest.canonical := by
  refine Schema.faithful_of_fields ?_
  simp only [WriteRequest.schema, List.forall_mem_cons]
  exact ⟨⟨_, TimeSeries.schema_faithful.repeated (by decide), fun _ => rfl⟩,
    ⟨_, (Metadata.schema_faithful.repeated_id (by decide)).mono (by decide), fun _ => rfl⟩,
    List.forall_mem_nil _⟩

end V1

/-! ## Laws of the schemas of the 2.0 protocol -/

namespace V2

theorem Exemplar.schema_faithful : Exemplar.schema.Faithful 0 Exemplar.canonical := by
  refine Schema.faithful_of_fields ?_
  simp only [Exemplar.schema, List.forall_mem_cons]
  exact ⟨⟨_, FieldForm.packed_faithful Scalar.uint32_lawful (by decide), fun _ => rfl⟩,
    ⟨_, FieldForm.double_faithful (by decide), fun _ => rfl⟩,
    ⟨_, FieldForm.zero_faithful Scalar.int64_lawful (by decide), fun _ => rfl⟩,
    List.forall_mem_nil _⟩

theorem Metadata.schema_faithful : Metadata.schema.Faithful 0 id := by
  refine Schema.faithful_of_fields ?_
  simp only [Metadata.schema, List.forall_mem_cons]
  exact ⟨⟨_, FieldForm.zero_faithful Scalar.int32_lawful (by decide), fun _ => rfl⟩,
    ⟨_, FieldForm.zero_faithful Scalar.uint32_lawful (by decide), fun _ => rfl⟩,
    ⟨_, FieldForm.zero_faithful Scalar.uint32_lawful (by decide), fun _ => rfl⟩,
    List.forall_mem_nil _⟩

theorem TimeSeries.schema_faithful : TimeSeries.schema.Faithful 2 TimeSeries.canonical := by
  have labelRefs := FieldForm.packed_faithful Scalar.uint32_lawful (show Key.IsNumber 1 by decide)
  refine Schema.faithful_of_fields ?_
  simp only [TimeSeries.schema, List.forall_mem_cons]
  exact ⟨⟨_, labelRefs.mono (by decide), fun _ => rfl⟩,
    ⟨_, (Sample.schema_faithful.repeated (by decide)).mono (by decide), fun _ => rfl⟩,
    ⟨_, Histogram.schema_faithful.repeated (by decide), fun _ => rfl⟩,
    ⟨_, (Exemplar.schema_faithful.repeated (by decide)).mono (by decide), fun _ => rfl⟩,
    ⟨_, (Metadata.schema_faithful.optional_id (by decide)).mono (by decide), fun _ => rfl⟩,
    ⟨_, FieldForm.zero_faithful Scalar.int64_lawful (by decide), fun _ => rfl⟩,
    List.forall_mem_nil _⟩

theorem Request.schema_faithful : Request.schema.Faithful 3 Request.canonical := by
  have symbols := FieldForm.repeated_faithful Scalar.text_lawful (show Key.IsNumber 4 by decide)
  refine Schema.faithful_of_fields ?_
  simp only [Request.schema, List.forall_mem_cons]
  exact ⟨⟨_, symbols.mono (by decide), fun _ => rfl⟩,
    ⟨_, TimeSeries.schema_faithful.repeated (by decide), fun _ => rfl⟩,
    List.forall_mem_nil _⟩

end V2
end RemoteWrite
