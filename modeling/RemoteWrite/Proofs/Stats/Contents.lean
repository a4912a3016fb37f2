import RemoteWrite.Proofs.Message.Canonical
import RemoteWrite.Proofs.Stats.Counter
import RemoteWrite.WriteMessage

/-!
Contract: what a request contains is counted without overflow.

Every sample, histogram, and exemplar takes up at least one byte of the
encoding, so a request that can be sent has fewer of them than the largest
counter.

Owns:
- the numbers of samples, histograms, and exemplars of a request;
- their bound by the size of the encoding;
- the stats of a request as these numbers.

Does not own: what a receiver reports.
-/

namespace RemoteWrite

/-! ## Counting -/

def V1.TimeSeries.count (series : V1.TimeSeries) : Counter → Nat
  | .samples => series.samples.length
  | .histograms => series.histograms.length
  | .exemplars => series.exemplars.length

def V2.TimeSeries.count (series : V2.TimeSeries) : Counter → Nat
  | .samples => series.samples.length
  | .histograms => series.histograms.length
  | .exemplars => series.exemplars.length

/-- How many samples, histograms, or exemplars a request has. -/
def DecodedRequest.count (counter : Counter) : DecodedRequest → Nat
  | v1 request => (request.timeseries.map (V1.TimeSeries.count · counter)).sum
  | v2 request => (request.timeseries.map (V2.TimeSeries.count · counter)).sum

theorem V1.TimeSeries.count_canonical (series : V1.TimeSeries) (counter : Counter) :
    series.canonical.count counter = series.count counter := by
  cases counter <;> exact List.length_map _

theorem V2.TimeSeries.count_canonical (series : V2.TimeSeries) (counter : Counter) :
    series.canonical.count counter = series.count counter := by
  cases counter <;> exact List.length_map _

/-- The canonical form of a request has the same contents. -/
theorem DecodedRequest.count_canonical (request : DecodedRequest) (counter : Counter) :
    request.canonical.count counter = request.count counter := by
  cases request with
  | v1 request =>
      show ((request.timeseries.map _).map _).sum = _
      rw [List.map_map]
      exact congrArg List.sum
        (List.map_congr_left fun series _ => series.count_canonical counter)
  | v2 request =>
      show ((request.timeseries.map _).map _).sum = _
      rw [List.map_map]
      exact congrArg List.sum
        (List.map_congr_left fun series _ => series.count_canonical counter)

/-! ## Bounds -/

namespace Wire.Schema

variable {M : Type} (schema : Schema M) (number : Nat)

theorem size_lt_nestedSize (message : M) :
    schema.size message < schema.nestedSize number message := by
  have key : 0 < (Key.mk number .lengthDelimited).size := varintSize_pos _
  rw [nestedSize]
  omega

/-- Contents that are bounded message by message are bounded in the field that
holds the messages. -/
theorem sum_le_repeated {count : M → Nat}
    (bounded : ∀ message, count message ≤ schema.size message + 1) (messages : List M) :
    (messages.map count).sum ≤ (schema.repeated number).size messages := by
  induction messages with
  | nil => exact Nat.le_refl _
  | cons message rest inductionHypothesis =>
      have first := bounded message
      have nested := schema.size_lt_nestedSize number message
      show count message + (rest.map count).sum ≤
        schema.nestedSize number message + (schema.repeated number).size rest
      omega

theorem length_le_repeated (messages : List M) :
    messages.length ≤ (schema.repeated number).size messages := by
  have one (message : M) : 1 ≤ schema.size message + 1 := Nat.le_add_left 1 _
  have ones := schema.sum_le_repeated number one messages
  rwa [List.map_const', List.sum_replicate_nat, Nat.mul_one] at ones

end Wire.Schema

theorem V1.TimeSeries.count_le (series : V1.TimeSeries) (counter : Counter) :
    series.count counter ≤ V1.TimeSeries.schema.size series := by
  have fields : V1.TimeSeries.schema.size series =
      (V1.Label.schema.repeated 1).size series.labels +
        ((Sample.schema.repeated 2).size series.samples +
          ((V1.Exemplar.schema.repeated 3).size series.exemplars +
            ((Histogram.schema.repeated 4).size series.histograms + 0))) := rfl
  have samples := Sample.schema.length_le_repeated 2 series.samples
  have exemplars := V1.Exemplar.schema.length_le_repeated 3 series.exemplars
  have histograms := Histogram.schema.length_le_repeated 4 series.histograms
  cases counter <;> rw [count] <;> omega

theorem V2.TimeSeries.count_le (series : V2.TimeSeries) (counter : Counter) :
    series.count counter ≤ V2.TimeSeries.schema.size series := by
  have fields : V2.TimeSeries.schema.size series =
      (Wire.FieldForm.packed .uint32 1).size series.labelRefs +
        ((Sample.schema.repeated 2).size series.samples +
          ((Histogram.schema.repeated 3).size series.histograms +
            ((V2.Exemplar.schema.repeated 4).size series.exemplars +
              ((V2.Metadata.schema.optional 5).size series.metadata +
                ((Wire.FieldForm.plain .int64 6 0 (· == 0)).size series.createdTimestamp +
                  0))))) := rfl
  have samples := Sample.schema.length_le_repeated 2 series.samples
  have histograms := Histogram.schema.length_le_repeated 3 series.histograms
  have exemplars := V2.Exemplar.schema.length_le_repeated 4 series.exemplars
  cases counter <;> rw [count] <;> omega

/-- A request is at least as long as it has contents. -/
theorem DecodedRequest.count_le (request : DecodedRequest) (counter : Counter) :
    request.count counter ≤ request.encodedSize := by
  cases request with
  | v1 request =>
      have contents := V1.TimeSeries.schema.sum_le_repeated 1 (fun series =>
        Nat.le_succ_of_le (series.count_le counter)) request.timeseries
      exact Nat.le_trans contents (Nat.le_add_right _ _)
  | v2 request =>
      have contents := V2.TimeSeries.schema.sum_le_repeated 5 (fun series =>
        Nat.le_succ_of_le (series.count_le counter)) request.timeseries
      -- The symbols come first and count nothing.
      refine Nat.le_trans contents (Nat.le_trans (Nat.le_add_right _ 0) ?_)
      exact Nat.le_add_left _ _

/-! ## Stats -/

theorem DecodedRequest.read_ofRequest (request : DecodedRequest) (counter : Counter) :
    counter.read (.ofRequest request) = UInt64.ofNat (request.count counter) := by
  cases request <;> cases counter <;> rfl

/-- The stats of a request are what it contains. -/
theorem DecodedRequest.toNat_read_ofRequest {request : DecodedRequest}
    (fits : request.encodedSize < 2 ^ 64) (counter : Counter) :
    (counter.read (.ofRequest request)).toNat = request.count counter := by
  have bound : request.count counter < 2 ^ 64 :=
    Nat.lt_of_le_of_lt (request.count_le counter) fits
  rw [request.read_ofRequest, UInt64.toNat_ofNat', Nat.mod_eq_of_lt bound]

end RemoteWrite
