import RemoteWrite.Message.Decoded
import RemoteWrite.Proofs.Wire.Decoding

/-!
Contract: the schemas of both protocols are local.

Owns:
- the locality of every message, from that of its fields.

Does not own: what follows for whole requests.
-/

namespace RemoteWrite

open Wire

/-! ## Plain fields -/

namespace Wire.FieldForm

variable {α : Type} {number : Nat} {default : α} {omitted : α → Bool}

theorem varint_isLocal {toNumber : α → Nat} {ofNumber : UInt64 → α} :
    (plain (.ofVarint toNumber ofNumber) number default omitted).IsLocal :=
  plain_isLocal (Scalar.ofVarint_isLocal _ _) _ _ _

theorem double_isLocal {default : Binary64} {omitted : Binary64 → Bool} :
    (plain .double number default omitted).IsLocal :=
  plain_isLocal Scalar.double_isLocal _ _ _

theorem text_isLocal {default : String} {omitted : String → Bool} :
    (plain .text number default omitted).IsLocal :=
  plain_isLocal Scalar.text_isLocal _ _ _

end Wire.FieldForm

open FieldForm

/-! ## Shared schemas -/

theorem Sample.schema_isLocal : Sample.schema.IsLocal := by
  refine Schema.isLocal_of_fields ?_
  simp only [Sample.schema, List.forall_mem_cons]
  exact ⟨double_isLocal, varint_isLocal, List.forall_mem_nil _⟩

theorem BucketSpan.schema_isLocal : BucketSpan.schema.IsLocal := by
  refine Schema.isLocal_of_fields ?_
  simp only [BucketSpan.schema, List.forall_mem_cons]
  exact ⟨varint_isLocal, varint_isLocal, List.forall_mem_nil _⟩

theorem Count.form_isLocal (intNumber floatNumber : Nat) :
    (Count.form intNumber floatNumber).IsLocal :=
  oneOf_isLocal (Scalar.ofVarint_isLocal _ _) Scalar.double_isLocal _ _ _ _

theorem Histogram.schema_isLocal : Histogram.schema.IsLocal := by
  have spans (number : Nat) : (BucketSpan.schema.repeated number).IsLocal :=
    BucketSpan.schema_isLocal.repeated number
  have deltas (number : Nat) : (FieldForm.packed .sint64 number).IsLocal :=
    packed_isLocal (Scalar.ofVarint_isLocal _ _) number
  have counts (number : Nat) : (FieldForm.packed .double number).IsLocal :=
    packed_isLocal Scalar.double_isLocal number
  refine Schema.isLocal_of_fields ?_
  simp only [Histogram.schema, List.forall_mem_cons]
  exact ⟨Count.form_isLocal 1 2, double_isLocal, varint_isLocal, double_isLocal,
    Count.form_isLocal 6 7, spans 8, deltas 9, counts 10, spans 11, deltas 12, counts 13,
    varint_isLocal, varint_isLocal, counts 16, List.forall_mem_nil _⟩

/-! ## Schemas of the 1.0 protocol -/

namespace V1

theorem Label.schema_isLocal : Label.schema.IsLocal := by
  refine Schema.isLocal_of_fields ?_
  simp only [Label.schema, List.forall_mem_cons]
  exact ⟨text_isLocal, text_isLocal, List.forall_mem_nil _⟩

theorem Exemplar.schema_isLocal : Exemplar.schema.IsLocal := by
  refine Schema.isLocal_of_fields ?_
  simp only [Exemplar.schema, List.forall_mem_cons]
  exact ⟨Label.schema_isLocal.repeated 1, double_isLocal, varint_isLocal, List.forall_mem_nil _⟩

theorem TimeSeries.schema_isLocal : TimeSeries.schema.IsLocal := by
  refine Schema.isLocal_of_fields ?_
  simp only [TimeSeries.schema, List.forall_mem_cons]
  exact ⟨Label.schema_isLocal.repeated 1, Sample.schema_isLocal.repeated 2,
    Exemplar.schema_isLocal.repeated 3, Histogram.schema_isLocal.repeated 4,
    List.forall_mem_nil _⟩

theorem Metadata.schema_isLocal : Metadata.schema.IsLocal := by
  refine Schema.isLocal_of_fields ?_
  simp only [Metadata.schema, List.forall_mem_cons]
  exact ⟨varint_isLocal, text_isLocal, text_isLocal, text_isLocal, List.forall_mem_nil _⟩

theorem WriteRequest.schema_isLocal : WriteRequest.schema.IsLocal := by
  refine Schema.isLocal_of_fields ?_
  simp only [WriteRequest.schema, List.forall_mem_cons]
  exact ⟨TimeSeries.schema_isLocal.repeated 1, Metadata.schema_isLocal.repeated 3,
    List.forall_mem_nil _⟩

end V1

/-! ## Schemas of the 2.0 protocol -/

namespace V2

theorem labelRefs_isLocal (number : Nat) : (FieldForm.packed .uint32 number).IsLocal :=
  packed_isLocal (Scalar.ofVarint_isLocal _ _) number

theorem Exemplar.schema_isLocal : Exemplar.schema.IsLocal := by
  refine Schema.isLocal_of_fields ?_
  simp only [Exemplar.schema, List.forall_mem_cons]
  exact ⟨labelRefs_isLocal 1, double_isLocal, varint_isLocal, List.forall_mem_nil _⟩

theorem Metadata.schema_isLocal : Metadata.schema.IsLocal := by
  refine Schema.isLocal_of_fields ?_
  simp only [Metadata.schema, List.forall_mem_cons]
  exact ⟨varint_isLocal, varint_isLocal, varint_isLocal, List.forall_mem_nil _⟩

theorem TimeSeries.schema_isLocal : TimeSeries.schema.IsLocal := by
  refine Schema.isLocal_of_fields ?_
  simp only [TimeSeries.schema, List.forall_mem_cons]
  exact ⟨labelRefs_isLocal 1, Sample.schema_isLocal.repeated 2,
    Histogram.schema_isLocal.repeated 3, Exemplar.schema_isLocal.repeated 4,
    Metadata.schema_isLocal.optional 5, varint_isLocal, List.forall_mem_nil _⟩

theorem Request.schema_isLocal : Request.schema.IsLocal := by
  refine Schema.isLocal_of_fields ?_
  simp only [Request.schema, List.forall_mem_cons]
  exact ⟨repeated_isLocal Scalar.text_isLocal 4, TimeSeries.schema_isLocal.repeated 5,
    List.forall_mem_nil _⟩

end V2
end RemoteWrite
