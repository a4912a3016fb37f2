import Mathlib.Data.List.Forall2
import RemoteWrite.Proofs.Stats.Contents
import RemoteWrite.Proofs.SymbolTable.Resolving

/-!
Contract: when a 2.0 request has the contents of a 1.0 request.

The texts of a 2.0 request are references to its symbols, those of a 1.0 request
stand where they are used. The contents are the same if every reference stands
for the text of the other request, and everything else is equal. The creation
times of series are the 2.0 request's own.

Owns:
- what references to labels and to the texts of metadata stand for;
- series, exemplars, and requests of the same contents, part by part;
- that interned labels are referred to for as long as the table goes on;
- that requests of the same contents have the same stats.

Does not own: how a request of one protocol is made from the other.
-/

namespace RemoteWrite

/-- The names and values of labels in turn. -/
def V1.Label.flatten (labels : List V1.Label) : List String :=
  labels.flatMap fun label => [label.name, label.value]

namespace V2

/-! ## The same contents -/

/-- Resolving the references succeeds with any buffer and gives the names and
values of the labels in turn. -/
def RefersTo (symbols : List String) (references : List UInt32) (labels : List V1.Label) : Prop :=
  ∀ buffer : Array String, desymbolizeLabels references symbols.toArray buffer =
    .ok (V1.Label.flatten labels).toArray

structure Exemplar.Describes (symbols : List String) (exemplar : Exemplar)
    (described : V1.Exemplar) : Prop where
  labels : RefersTo symbols exemplar.labelRefs described.labels
  value : exemplar.value = described.value
  timestamp : exemplar.timestamp = described.timestamp

structure Metadata.Describes (symbols : List String) (metadata : Metadata)
    (described : V1.Metadata) : Prop where
  metricType : metadata.metricType = described.metricType
  help : symbols[metadata.helpRef.toNat]? = some described.help
  unit : symbols[metadata.unitRef.toNat]? = some described.unit

/-- The series has the labels, samples, histograms, and exemplars of the other
one, in the same order, and the metadata that is sent for the other's metric
name. -/
structure TimeSeries.Describes (symbols : List String) (entries : List V1.Metadata)
    (series : TimeSeries) (described : V1.TimeSeries) : Prop where
  labels : RefersTo symbols series.labelRefs described.labels
  samples : series.samples = described.samples
  histograms : series.histograms = described.histograms
  exemplars : List.Forall₂ (Exemplar.Describes symbols) series.exemplars described.exemplars
  metadata : ∃ own, series.metadata = some own ∧ ∃ entry ∈ entries,
    ⟨"__name__", entry.familyName⟩ ∈ described.labels ∧ own.Describes symbols entry

/-- Every series describes the one at its place in the other request. -/
def Request.Describes (request : Request) (described : V1.WriteRequest) : Prop :=
  List.Forall₂ (TimeSeries.Describes request.symbols described.metadata) request.timeseries
    described.timeseries

end V2

/-! ## References from a table -/

/-- Labels have a value for every name. -/
theorem V1.Label.length_flatten (labels : List V1.Label) :
    (V1.Label.flatten labels).length = 2 * labels.length := by
  simp [V1.Label.flatten, Nat.mul_comm]

namespace SymbolTable

/-- Labels of the 1.0 protocol are all there in pairs. -/
theorem paired_flatten (labels : List V1.Label) :
    paired (V1.Label.flatten labels) = V1.Label.flatten labels := by
  have even : (V1.Label.flatten labels).length % 2 ≠ 1 := by
    rw [V1.Label.length_flatten]
    omega
  rw [paired, if_neg even, List.append_nil]

/-- The references that labels were interned as refer to them in every table
that goes on from there. -/
theorem Records.refersTo {table last : SymbolTable} {texts more : List String}
    {labels : List V1.Label} (records : table.Records texts) (recorded : last.Records more)
    (continued : texts ++ V1.Label.flatten labels <+: more) (fits : last.symbols.size ≤ 2 ^ 32) :
    V2.RefersTo last.symbols.toList (table.symbolizeLabels (V1.Label.flatten labels)).1 labels := by
  intro buffer
  have resolves := records.resolves recorded continued fits
  rw [paired_flatten] at resolves
  have count := congrArg List.length resolves
  rw [List.length_map, List.length_map, V1.Label.length_flatten] at count
  have pairs : (table.symbolizeLabels (V1.Label.flatten labels)).1.length % 2 = 0 := by omega
  exact desymbolizeLabels_of_resolves pairs resolves buffer

/-- The reference that a text was interned as stands for it in every table that
goes on from there. -/
theorem Records.stands {table last : SymbolTable} {texts more : List String} {text : String}
    (records : table.Records texts) (recorded : last.Records more)
    (continued : texts ++ [text] <+: more) (fits : last.symbols.size ≤ 2 ^ 32) :
    last.symbols.toList[(table.symbolize text).1.toNat]? = some text := by
  have known : text ∈ "" :: (texts ++ [text]) := by simp
  rw [(records.symbolize text).1, Array.getElem?_toList]
  exact recorded.getElem?_reference continued fits known

end SymbolTable

/-! ## The same stats -/

namespace V2

theorem TimeSeries.Describes.count_eq {symbols : List String} {entries : List V1.Metadata}
    {series : TimeSeries} {described : V1.TimeSeries}
    (describes : series.Describes symbols entries described) (counter : Counter) :
    series.count counter = described.count counter := by
  cases counter with
  | samples => exact congrArg List.length describes.samples
  | histograms => exact congrArg List.length describes.histograms
  | exemplars => exact describes.exemplars.length_eq

/-- Requests of the same contents have as many samples, histograms, and
exemplars. -/
theorem Request.Describes.count_eq {request : Request} {described : V1.WriteRequest}
    (describes : request.Describes described) (counter : Counter) :
    (DecodedRequest.v2 request).count counter = (DecodedRequest.v1 described).count counter := by
  unfold DecodedRequest.count
  refine congrArg List.sum ?_
  unfold Request.Describes at describes
  generalize request.timeseries = series, described.timeseries = others at describes ⊢
  induction describes with
  | nil => rfl
  | cons first _ inductionHypothesis =>
      rw [List.map_cons, List.map_cons, first.count_eq, inductionHypothesis]

theorem Request.Describes.stats_eq {request : Request} {described : V1.WriteRequest}
    (describes : request.Describes described) :
    WriteStats.ofV2 request = WriteStats.ofV1 described := by
  refine WriteStats.eq_of_read (fun counter => ?_) rfl
  have sent := (DecodedRequest.v2 request).read_ofRequest counter
  rw [describes.count_eq] at sent
  exact sent.trans ((DecodedRequest.v1 described).read_ofRequest counter).symm

end V2
end RemoteWrite
