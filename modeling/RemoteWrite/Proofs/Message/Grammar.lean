import RemoteWrite.Message.Decoded
import RemoteWrite.Proofs.Wire.Acceptance

/-!
Contract: every legal encoding of a request is decoded to that request, bit for
bit.

The grammars are those of the protocols. They are stated next to the schemas,
not derived from them, and each schema accepts its grammar. A request nests
messages three deep, so the recursion limit leaves just enough for groups that
are nested 96 deep in the innermost message.

Owns:
- the grammars of all messages, and their acceptance;
- the byte strings that denote a request, and their decoding.

Does not own: byte strings that denote no request.
-/

namespace RemoteWrite

open Wire

/-! ## Scalars -/

namespace Wire.Scalar

theorem uint64_accepts : uint64.Accepts .uint64 := ofVarint_accepts uint64_lawful

theorem uint32_accepts : uint32.Accepts .uint32 := ofVarint_accepts uint32_lawful

theorem int64_accepts : int64.Accepts .int64 := ofVarint_accepts int64_lawful

theorem int32_accepts : int32.Accepts .int32 := ofVarint_accepts int32_lawful

theorem sint64_accepts : sint64.Accepts .sint64 := ofVarint_accepts sint64_lawful

theorem sint32_accepts : sint32.Accepts .sint32 := ofVarint_accepts sint32_lawful

end Wire.Scalar

open Scalar FieldForm

/-! ## Shared messages -/

def Sample.grammar : List (MessagePart Sample) := [
  ⟨Sample.value, .plain .double 1 .zero⟩,
  ⟨Sample.timestamp, .plain .int64 2 0⟩]

def BucketSpan.grammar : List (MessagePart BucketSpan) := [
  ⟨BucketSpan.offset, .plain .sint32 1 0⟩,
  ⟨BucketSpan.length, .plain .uint32 2 0⟩]

def Count.grammar (intNumber floatNumber : Nat) : FieldGrammar (Option Count) :=
  .oneOf .uint64 intNumber .double floatNumber Count.toEither

def Histogram.grammar : List (MessagePart Histogram) := [
  ⟨Histogram.count, Count.grammar 1 2⟩,
  ⟨Histogram.sum, .plain .double 3 .zero⟩,
  ⟨Histogram.bucketSchema, .plain .sint32 4 0⟩,
  ⟨Histogram.zeroThreshold, .plain .double 5 .zero⟩,
  ⟨Histogram.zeroCount, Count.grammar 6 7⟩,
  ⟨Histogram.negativeSpans, .messages (Denotes BucketSpan.grammar) 8⟩,
  ⟨Histogram.negativeDeltas, .packable .sint64 9⟩,
  ⟨Histogram.negativeCounts, .packable .double 10⟩,
  ⟨Histogram.positiveSpans, .messages (Denotes BucketSpan.grammar) 11⟩,
  ⟨Histogram.positiveDeltas, .packable .sint64 12⟩,
  ⟨Histogram.positiveCounts, .packable .double 13⟩,
  ⟨Histogram.resetHint, .plain .int32 14 0⟩,
  ⟨Histogram.timestamp, .plain .int64 15 0⟩,
  ⟨Histogram.customValues, .packable .double 16⟩]

theorem Sample.schema_accepts : Sample.schema.Accepts 0 Sample.grammar := by
  apply Schema.accepts_of_fields
  exact .cons (plain_accepts double_accepts).field <|
    .cons (plain_accepts int64_accepts).field .nil

theorem BucketSpan.schema_accepts : BucketSpan.schema.Accepts 0 BucketSpan.grammar := by
  apply Schema.accepts_of_fields
  exact .cons (plain_accepts sint32_accepts).field <|
    .cons (plain_accepts uint32_accepts).field .nil

theorem Count.form_accepts {intNumber floatNumber : Nat} (different : floatNumber ≠ intNumber)
    {depth : Nat} :
    (Count.form intNumber floatNumber).Accepts depth (Count.grammar intNumber floatNumber) := by
  refine oneOf_accepts uint64_accepts double_accepts different fun count => ?_
  cases count <;> rfl

theorem Histogram.schema_accepts : Histogram.schema.Accepts 1 Histogram.grammar := by
  have deltas {number : Nat} : (FieldForm.packed .sint64 number).Accepts 1
      (.packable .sint64 number) :=
    packed_accepts sint64_accepts (by decide)
  have counts {number : Nat} : (FieldForm.packed .double number).Accepts 1
      (.packable .double number) :=
    packed_accepts double_accepts (by decide)
  apply Schema.accepts_of_fields
  exact .cons (Count.form_accepts (by decide)).field <|
    .cons (plain_accepts double_accepts).field <|
    .cons (plain_accepts sint32_accepts).field <|
    .cons (plain_accepts double_accepts).field <|
    .cons (Count.form_accepts (by decide)).field <|
    .cons BucketSpan.schema_accepts.repeated.field <|
    .cons deltas.field <|
    .cons counts.field <|
    .cons BucketSpan.schema_accepts.repeated.field <|
    .cons deltas.field <|
    .cons counts.field <|
    .cons (plain_accepts int32_accepts).field <|
    .cons (plain_accepts int64_accepts).field <|
    .cons counts.field .nil

/-! ## Messages of the 1.0 protocol -/

namespace V1

def Label.grammar : List (MessagePart Label) := [
  ⟨Label.name, .plain .text 1 ""⟩,
  ⟨Label.value, .plain .text 2 ""⟩]

def Exemplar.grammar : List (MessagePart Exemplar) := [
  ⟨Exemplar.labels, .messages (Denotes Label.grammar) 1⟩,
  ⟨Exemplar.value, .plain .double 2 .zero⟩,
  ⟨Exemplar.timestamp, .plain .int64 3 0⟩]

def TimeSeries.grammar : List (MessagePart TimeSeries) := [
  ⟨TimeSeries.labels, .messages (Denotes Label.grammar) 1⟩,
  ⟨TimeSeries.samples, .messages (Denotes Sample.grammar) 2⟩,
  ⟨TimeSeries.exemplars, .messages (Denotes Exemplar.grammar) 3⟩,
  ⟨TimeSeries.histograms, .messages (Denotes Histogram.grammar) 4⟩]

def Metadata.grammar : List (MessagePart Metadata) := [
  ⟨Metadata.metricType, .plain .int32 1 0⟩,
  ⟨Metadata.familyName, .plain .text 2 ""⟩,
  ⟨Metadata.help, .plain .text 4 ""⟩,
  ⟨Metadata.unit, .plain .text 5 ""⟩]

def WriteRequest.grammar : List (MessagePart WriteRequest) := [
  ⟨WriteRequest.timeseries, .messages (Denotes TimeSeries.grammar) 1⟩,
  ⟨WriteRequest.metadata, .messages (Denotes Metadata.grammar) 3⟩]

theorem Label.schema_accepts : Label.schema.Accepts 0 Label.grammar := by
  apply Schema.accepts_of_fields
  exact .cons (plain_accepts text_accepts).field <|
    .cons (plain_accepts text_accepts).field .nil

theorem Exemplar.schema_accepts : Exemplar.schema.Accepts 1 Exemplar.grammar := by
  apply Schema.accepts_of_fields
  exact .cons Label.schema_accepts.repeated.field <|
    .cons (plain_accepts double_accepts).field <|
    .cons (plain_accepts int64_accepts).field .nil

theorem TimeSeries.schema_accepts : TimeSeries.schema.Accepts 2 TimeSeries.grammar := by
  apply Schema.accepts_of_fields
  exact .cons (Label.schema_accepts.repeated.mono (by decide)).field <|
    .cons (Sample.schema_accepts.repeated.mono (by decide)).field <|
    .cons Exemplar.schema_accepts.repeated.field <|
    .cons Histogram.schema_accepts.repeated.field .nil

theorem Metadata.schema_accepts : Metadata.schema.Accepts 0 Metadata.grammar := by
  apply Schema.accepts_of_fields
  exact .cons (plain_accepts int32_accepts).field <|
    .cons (plain_accepts text_accepts).field <|
    .cons (plain_accepts text_accepts).field <|
    .cons (plain_accepts text_accepts).field .nil

theorem WriteRequest.schema_accepts :
    WriteRequest.schema.Accepts 3 WriteRequest.grammar := by
  apply Schema.accepts_of_fields
  exact .cons TimeSeries.schema_accepts.repeated.field <|
    .cons (Metadata.schema_accepts.repeated.mono (by decide)).field .nil

end V1

/-! ## Messages of the 2.0 protocol -/

namespace V2

def Exemplar.grammar : List (MessagePart Exemplar) := [
  ⟨Exemplar.labelRefs, .packable .uint32 1⟩,
  ⟨Exemplar.value, .plain .double 2 .zero⟩,
  ⟨Exemplar.timestamp, .plain .int64 3 0⟩]

def Metadata.grammar : List (MessagePart Metadata) := [
  ⟨Metadata.metricType, .plain .int32 1 0⟩,
  ⟨Metadata.helpRef, .plain .uint32 3 0⟩,
  ⟨Metadata.unitRef, .plain .uint32 4 0⟩]

def TimeSeries.grammar : List (MessagePart TimeSeries) := [
  ⟨TimeSeries.labelRefs, .packable .uint32 1⟩,
  ⟨TimeSeries.samples, .messages (Denotes Sample.grammar) 2⟩,
  ⟨TimeSeries.histograms, .messages (Denotes Histogram.grammar) 3⟩,
  ⟨TimeSeries.exemplars, .messages (Denotes Exemplar.grammar) 4⟩,
  ⟨TimeSeries.metadata, .optional (Denotes Metadata.grammar) 5⟩,
  ⟨TimeSeries.createdTimestamp, .plain .int64 6 0⟩]

def Request.grammar : List (MessagePart Request) := [
  ⟨Request.symbols, .repeated .text 4⟩,
  ⟨Request.timeseries, .messages (Denotes TimeSeries.grammar) 5⟩]

theorem labelRefs_accepts {number depth : Nat} : (FieldForm.packed .uint32 number).Accepts depth
    (.packable .uint32 number) :=
  packed_accepts uint32_accepts (by decide)

theorem Exemplar.schema_accepts : Exemplar.schema.Accepts 0 Exemplar.grammar := by
  apply Schema.accepts_of_fields
  exact .cons labelRefs_accepts.field <|
    .cons (plain_accepts double_accepts).field <|
    .cons (plain_accepts int64_accepts).field .nil

theorem Metadata.schema_accepts : Metadata.schema.Accepts 0 Metadata.grammar := by
  apply Schema.accepts_of_fields
  exact .cons (plain_accepts int32_accepts).field <|
    .cons (plain_accepts uint32_accepts).field <|
    .cons (plain_accepts uint32_accepts).field .nil

theorem TimeSeries.schema_accepts : TimeSeries.schema.Accepts 2 TimeSeries.grammar := by
  apply Schema.accepts_of_fields
  exact .cons labelRefs_accepts.field <|
    .cons (Sample.schema_accepts.repeated.mono (by decide)).field <|
    .cons Histogram.schema_accepts.repeated.field <|
    .cons (Exemplar.schema_accepts.repeated.mono (by decide)).field <|
    .cons (Metadata.schema_accepts.optional.mono (by decide)).field <|
    .cons (plain_accepts int64_accepts).field .nil

theorem Request.schema_accepts : Request.schema.Accepts 3 Request.grammar := by
  apply Schema.accepts_of_fields
  exact .cons (repeated_accepts text_accepts).field <|
    .cons TimeSeries.schema_accepts.repeated.field .nil

end V2

/-! ## Requests -/

namespace DecodedRequest

/-- The bytes are a legal encoding of a request by its protocol. -/
def Denotes : DecodedRequest → Bytes → Prop
  | v1 request => Wire.Denotes V1.WriteRequest.grammar request
  | v2 request => Wire.Denotes V2.Request.grammar request

/-- Every legal encoding of a request is decoded to that request, with all bits of its floating-point
numbers. -/
theorem decode_of_denotes {request : DecodedRequest} {bytes : Bytes}
    (denotes : request.Denotes bytes) : decode request.protocol bytes = .ok request := by
  cases request with
  | v1 request =>
      have decoded := V1.WriteRequest.schema_accepts.decode (by decide) denotes
      simp only [protocol, decode, decoded]
  | v2 request =>
      have decoded := V2.Request.schema_accepts.decode (by decide) denotes
      simp only [protocol, decode, decoded]

/-- A series between a group and a number that are not declared, under a padded key and length. Its
records stand in reverse order, with an empty label value and a zero timestamp that are written, and
with deltas in a packed record and in a single one, on both sides of the count. -/
theorem decode_of_denotes_reversed :
    let histogram : Histogram := { count := some (.int 0), positiveDeltas := [1, -1, 2] }
    let sample : Sample := { value := ⟨0x7FF8000000000001⟩ }
    let request : DecodedRequest :=
      .v1 { timeseries := [⟨[⟨"a", ""⟩], [sample], [], [histogram]⟩] }
    let histogramBytes : Bytes := [0x62, 0x02, 0x02, 0x01, 0x08, 0x80, 0x00, 0x60, 0x04]
    let sampleBytes : Bytes :=
      [0x10, 0x80, 0x00, 0x09, 0x01, 0x00, 0x00, 0x00, 0x00, 0x00, 0xf8, 0x7f]
    let labelBytes : Bytes := [0x12, 0x00, 0x0a, 0x01, 0x61]
    let seriesBytes : Bytes :=
      [0x22, 0x09] ++ histogramBytes ++
        ([0x12, 0x0c] ++ sampleBytes ++ ([0x0a, 0x05] ++ labelBytes))
    let bytes : Bytes :=
      [0x3b, 0x43, 0x44, 0x3c] ++ ([0x8a, 0x00, 0xa0, 0x00] ++ seriesBytes ++ [0x2d, 1, 2, 3, 4])
    request.Denotes bytes ∧ decode .v1 bytes = .ok request := by
  intro histogram sample request histogramBytes sampleBytes labelBytes seriesBytes bytes
  have histogramDenotes : Wire.Denotes Histogram.grammar histogram histogramBytes := by
    let packed : Record :=
      { key := ⟨12, .lengthDelimited⟩, keyBytes := [0x62], payload := [0x02, 0x02, 0x01] }
    let count : Record := { key := ⟨1, .varint⟩, keyBytes := [0x08], payload := [0x80, 0x00] }
    let single : Record := { key := ⟨12, .varint⟩, keyBytes := [0x60], payload := [0x04] }
    have isPacked : ScalarGrammar.sint64.IsPart [1, -1] packed :=
      .packed rfl (show packed.payload = [0x02] ++ [[0x02], [0x01]].flatten from rfl) (by decide)
        (.cons (show IsVarint _ _ by decide) (.cons (show IsVarint _ _ by decide) .nil))
    have isSingle : ScalarGrammar.sint64.IsPart [2] single :=
      .single ⟨rfl, show IsVarint _ _ by decide⟩
    refine Denotes.of_declared [packed, count, single] (by decide) ?_
    simp only [Histogram.grammar, List.forall_mem_cons]
    exact ⟨⟨count, rfl, rfl, rfl, show IsVarint _ _ by decide⟩, .inl ⟨rfl, rfl⟩, .inl ⟨rfl, rfl⟩,
      .inl ⟨rfl, rfl⟩, rfl, .nil, ⟨[], rfl, .nil⟩, ⟨[], rfl, .nil⟩, .nil,
      ⟨[[1, -1], [2]], rfl, .cons isPacked (.cons isSingle .nil)⟩, ⟨[], rfl, .nil⟩,
      .inl ⟨rfl, rfl⟩, .inl ⟨rfl, rfl⟩, ⟨[], rfl, .nil⟩, List.forall_mem_nil _⟩
  have sampleDenotes : Wire.Denotes Sample.grammar sample sampleBytes := by
    let timestamp : Record := { key := ⟨2, .varint⟩, keyBytes := [0x10], payload := [0x80, 0x00] }
    let value : Record :=
      { key := ⟨1, .sixtyFourBit⟩, keyBytes := [0x09]
        payload := [0x01, 0x00, 0x00, 0x00, 0x00, 0x00, 0xf8, 0x7f] }
    refine Denotes.of_declared [timestamp, value] (by decide) ?_
    simp only [Sample.grammar, List.forall_mem_cons]
    have bits : value.payload = littleEndian sample.value.bits := by decide
    exact ⟨.inr ⟨value, rfl, rfl, bits⟩, .inr ⟨timestamp, rfl, rfl, show IsVarint _ _ by decide⟩,
      List.forall_mem_nil _⟩
  have labelDenotes : Wire.Denotes V1.Label.grammar ⟨"a", ""⟩ labelBytes := by
    let value : Record := { key := ⟨2, .lengthDelimited⟩, keyBytes := [0x12], payload := [0x00] }
    let name : Record :=
      { key := ⟨1, .lengthDelimited⟩, keyBytes := [0x0a], payload := [0x01, 0x61] }
    refine Denotes.of_declared [value, name] (by decide) ?_
    simp only [V1.Label.grammar, List.forall_mem_cons]
    exact ⟨.inr ⟨name, rfl, rfl, [0x01], by decide, by decide⟩,
      .inr ⟨value, rfl, rfl, [0x00], by decide, by decide⟩, List.forall_mem_nil _⟩
  have seriesDenotes : Wire.Denotes V1.TimeSeries.grammar
      ⟨[⟨"a", ""⟩], [sample], [], [histogram]⟩ seriesBytes := by
    let last : Record :=
      { key := ⟨4, .lengthDelimited⟩, keyBytes := [0x22], payload := [0x09] ++ histogramBytes }
    let middle : Record :=
      { key := ⟨2, .lengthDelimited⟩, keyBytes := [0x12], payload := [0x0c] ++ sampleBytes }
    let first : Record :=
      { key := ⟨1, .lengthDelimited⟩, keyBytes := [0x0a], payload := [0x05] ++ labelBytes }
    refine Denotes.of_declared [last, middle, first] (by decide) ?_
    simp only [V1.TimeSeries.grammar, List.forall_mem_cons]
    exact ⟨.cons ⟨rfl, [0x05], _, rfl, by decide, labelDenotes⟩ .nil,
      .cons ⟨rfl, [0x0c], _, rfl, by decide, sampleDenotes⟩ .nil, .nil,
      .cons ⟨rfl, [0x09], _, rfl, by decide, histogramDenotes⟩ .nil, List.forall_mem_nil _⟩
  have denotes : request.Denotes bytes := by
    let group : Record :=
      { key := ⟨7, .startGroup⟩, keyBytes := [0x3b], payload := [0x43, 0x44, 0x3c] }
    let series : Record :=
      { key := ⟨1, .lengthDelimited⟩, keyBytes := [0x8a, 0x00]
        payload := [0xa0, 0x00] ++ seriesBytes }
    let bits : Record := { key := ⟨5, .thirtyTwoBit⟩, keyBytes := [0x2d], payload := [1, 2, 3, 4] }
    let innerGroup : Record := { key := ⟨8, .startGroup⟩, keyBytes := [0x43], payload := [0x44] }
    have isGroup : IsWireValue groupDepth group.key group.payload :=
      .startGroup (.next innerGroup (.startGroup (.close (by decide))) (.close (by decide)))
    refine ⟨[group, series, bits], rfl, ?declared, ?undeclared⟩
    case declared =>
      simp only [V1.WriteRequest.grammar, List.forall_mem_cons]
      exact ⟨.cons ⟨rfl, [0xa0, 0x00], _, rfl, by decide, seriesDenotes⟩ .nil, .nil,
        List.forall_mem_nil _⟩
    case undeclared =>
      simp only [List.forall_mem_cons]
      exact ⟨.inr isGroup, .inl (by decide), .inr (.thirtyTwoBit rfl), List.forall_mem_nil _⟩
  exact ⟨denotes, decode_of_denotes denotes⟩

end DecodedRequest
end RemoteWrite
