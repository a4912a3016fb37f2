import Mathlib.Algebra.BigOperators.Group.List.Basic
import RemoteWrite.Proofs.Fixture.Symbols

/-!
Contract: the request builders of both protocols give the same contents.

The 2.0 builder has one table for all series. A series interns its labels and
those of its exemplar, and the references that it gets must be right in the
table that is sent at the end.

Owns:
- that each series describes its counterpart, whatever is interned later;
- the numbers of samples, histograms, and exemplars of the requests.

Does not own: the texts in the table, which are in `Fixture.Symbols`.
-/

namespace RemoteWrite.Fixture

open SymbolTable

/-! ## Series -/

/-- The metadata that the 1.0 request has for all its series. -/
def family : V1.Metadata := ⟨MetricType.counter.number, metricName, help, ""⟩

section Series

variable {last : SymbolTable} {more : List String} (recorded : last.Records more)
  (fits : last.symbols.size ≤ 2 ^ 32)
include recorded fits

variable {table : SymbolTable} {texts : List String} (records : table.Records texts)
include records

/-- An exemplar has the labels of its counterpart in every table that goes on
from the one that interned them. -/
theorem describes_v2Exemplars (index : Nat) (continued : texts ++ exemplarTexts index <+: more) :
    List.Forall₂ (V2.Exemplar.Describes last.symbols.toList) (v2Exemplars table index).1
      (v1Exemplars index) := by
  unfold exemplarTexts at continued
  by_cases third : index % 3 = 0
  · rw [if_pos third] at continued
    rw [v2Exemplars_of_third table third, v1Exemplars, if_pos third]
    exact .cons ⟨records.refersTo recorded continued fits, rfl, rfl⟩ .nil
  · rw [v2Exemplars, v1Exemplars, if_neg third, if_neg third]
    exact .nil

variable {helpRef : UInt32} (described : V2.Metadata.Describes last.symbols.toList
  ⟨MetricType.counter.number, helpRef, 0⟩ family)
include described

/-- A series describes its counterpart in every table that goes on from the one
that interned its texts. -/
theorem describes_v2Series (index : Nat) (continued : texts ++ seriesTexts index <+: more) :
    (v2Series helpRef table index).1.Describes last.symbols.toList [family] (v1Series index) := by
  rw [seriesTexts, ← List.append_assoc] at continued
  -- The exemplar is interned last, and the labels before it.
  have labelsContinued : texts ++ V1.Label.flatten (seriesLabels index) <+: more :=
    (List.prefix_append _ _).trans continued
  have labels := records.refersTo recorded labelsContinued fits
  have labelled := (records.symbolizeLabels (V1.Label.flatten (seriesLabels index))).2
  have named : ⟨"__name__", family.familyName⟩ ∈ (v1Series index).labels := List.mem_cons_self
  simp only [v2Series_eq]
  generalize table.symbolizeLabels (V1.Label.flatten (seriesLabels index)) = interned
    at labels labelled ⊢
  exact {
    labels
    samples := rfl
    histograms := rfl
    exemplars := describes_v2Exemplars recorded fits labelled index continued
    metadata := ⟨_, rfl, family, List.mem_singleton_self _, named, described⟩ }

/-- All series describe their counterparts in every table that goes on from the
one that interned the texts of the last of them. -/
theorem describes_v2SeriesList (indices : List Nat)
    (continued : texts ++ indices.flatMap seriesTexts <+: more) :
    List.Forall₂ (V2.TimeSeries.Describes last.symbols.toList [family])
      (v2SeriesList helpRef table indices).1 (indices.map v1Series) := by
  induction indices generalizing table texts with
  | nil => exact .nil
  | cons index rest inductionHypothesis =>
      rw [List.flatMap_cons, ← List.append_assoc] at continued
      have firstContinued : texts ++ seriesTexts index <+: more :=
        (List.prefix_append _ _).trans continued
      simp only [v2SeriesList_cons, List.map_cons]
      exact .cons (describes_v2Series recorded fits records described index firstContinued)
        (inductionHypothesis (records_v2Series records helpRef index) continued)

end Series

/-- As long as references reach all symbols, the 2.0 request describes the 1.0
request of the same size. -/
theorem describes_of_fits {count : Nat} (fits : (v2Request count).symbols.length ≤ 2 ^ 32) :
    (v2Request count).Describes (v1Request count) := by
  have helped := (records_new.symbolize help).2
  have recorded := records_v2SeriesList helped (SymbolTable.new.symbolize help).1 (List.range count)
  simp only [v2Request_eq, Array.length_toList] at fits ⊢
  have stands := records_new.stands recorded (List.prefix_append _ _) fits
  generalize SymbolTable.new.symbolize help = first at helped recorded fits stands ⊢
  have empty := recorded.symbols ▸ getElem?_symbolsOf_zero _
  exact describes_v2SeriesList recorded fits helped ⟨rfl, stands, empty⟩ _ List.prefix_rfl

/-! ## Contents -/

/-- Of how many series one has something that is counted, the first of them
included. -/
def interval : Counter → Nat
  | .samples => 1
  | .histograms => 5
  | .exemplars => 3

theorem count_v1Series (index : Nat) (counter : Counter) :
    (v1Series index).count counter = if index % interval counter = 0 then 1 else 0 := by
  cases counter with
  | samples =>
      rw [interval, Nat.mod_one]
      rfl
  | histograms =>
      show (histograms index).length = if index % 5 = 0 then 1 else 0
      rw [histograms, apply_ite List.length]
      rfl
  | exemplars =>
      show (v1Exemplars index).length = if index % 3 = 0 then 1 else 0
      rw [v1Exemplars, apply_ite List.length]
      rfl

theorem count_v1Request (count : Nat) (counter : Counter) :
    (DecodedRequest.v1 (v1Request count)).count counter =
      (count + (interval counter - 1)) / interval counter := by
  have positive : 0 < interval counter := by cases counter <;> decide
  rw [← length_multiples positive]
  unfold DecodedRequest.count v1Request
  simp only [List.map_map, Function.comp_def, count_v1Series]
  simp [List.sum_map_ite]

theorem length_v2SeriesList (helpRef : UInt32) (table : SymbolTable) (indices : List Nat) :
    (v2SeriesList helpRef table indices).1.length = indices.length := by
  induction indices generalizing table with
  | nil => rfl
  | cons index rest inductionHypothesis =>
      simp only [v2SeriesList_cons, List.length_cons, inductionHypothesis]

/-- Series that can be referred to are few enough to be counted. -/
theorem toNat_read_v1Request {count : Nat} (fits : (v2Request count).symbols.length ≤ 2 ^ 32)
    (counter : Counter) :
    (counter.read (WriteStats.ofV1 (v1Request count))).toNat =
      (count + (interval counter - 1)) / interval counter := by
  have few : count ≤ 2 ^ 32 := by
    rw [length_symbols_v2Request] at fits
    split at fits <;> omega
  have bound : (count + (interval counter - 1)) / interval counter < 2 ^ 64 := by
    cases counter <;> simp only [interval] <;> omega
  have read := (DecodedRequest.v1 (v1Request count)).read_ofRequest counter
  rw [count_v1Request] at read
  rw [← UInt64.toNat_ofNat_of_lt' bound, ← read]
  rfl

/-- Both builders make as many series as they are asked for, and the 1.0 request
has one piece of metadata for all of them. The symbols of the 2.0 request are
distinct and start with the empty text. As long as references reach all of them,
each of its series describes the one at its place in the 1.0 request. So the
stats are the same: one sample for each series, a histogram for every fifth, and
an exemplar for every third. -/
theorem describes_v2Request (count : Nat) :
    let v1 := v1Request count
    let v2 := v2Request count
    v1.timeseries.length = count ∧ v2.timeseries.length = count ∧ v1.metadata.length = 1 ∧
      v2.symbols.Nodup ∧ v2.symbols.head? = some "" ∧
      (v2.symbols.length ≤ 2 ^ 32 →
        v2.Describes v1 ∧
          WriteStats.ofV2 v2 = WriteStats.ofV1 v1 ∧
          (WriteStats.ofV1 v1).samples.toNat = count ∧
          (WriteStats.ofV1 v1).histograms.toNat = (count + 4) / 5 ∧
          (WriteStats.ofV1 v1).exemplars.toNat = (count + 2) / 3) := by
  intro v1 v2
  obtain ⟨last, recorded, sent⟩ := exists_records_v2Request count
  have symbols : v2.symbols = symbolsOf (requestTexts count) := sent.trans recorded.symbols
  refine ⟨?_, ?_, rfl, ?_, ?_, fun fits => ?_⟩
  · exact (List.length_map _).trans List.length_range
  · exact (congrArg (·.timeseries.length) (v2Request_eq count)).trans
      ((length_v2SeriesList _ _ _).trans List.length_range)
  · rw [symbols]
    exact nodup_symbolsOf _
  · rw [symbols, List.head?_eq_getElem?]
    exact getElem?_symbolsOf_zero _
  · have describes : v2.Describes v1 := describes_of_fits fits
    refine ⟨describes, describes.stats_eq, ?_, ?_, ?_⟩
    · have samples := toNat_read_v1Request fits .samples
      rwa [interval, Nat.sub_self, Nat.add_zero, Nat.div_one] at samples
    · exact toNat_read_v1Request fits .histograms
    · exact toNat_read_v1Request fits .exemplars

/-- Of sixteen series the last one has a histogram and an exemplar. Its texts
are found among the 28 symbols of all series. -/
theorem describes_v2Request_sixteen :
    let request := v2Request 16
    let stats := WriteStats.ofV2 request
    request.symbols.length = 28 ∧ request.symbols.length ≤ 2 ^ 32 ∧
      request.timeseries.length = 16 ∧
      (∃ series, request.timeseries[15]? = some series ∧
        desymbolizeLabels series.labelRefs request.symbols.toArray =
          .ok #["__name__", "test_requests_total", "instance", "host-15"] ∧
        series.histograms = [histogram] ∧
        ∃ exemplar, series.exemplars = [exemplar] ∧
          desymbolizeLabels exemplar.labelRefs request.symbols.toArray =
            .ok #["trace_id", "0000000000000000000000000000000f"]) ∧
      stats.samples.toNat = 16 ∧ stats.histograms.toNat = 4 ∧ stats.exemplars.toNat = 6 := by
  intro request stats
  have symbols : request.symbols.length = 28 := length_symbols_v2Request 16
  have fits : request.symbols.length ≤ 2 ^ 32 := by
    rw [symbols]
    decide
  obtain ⟨_, length, _, _, _, contents⟩ := describes_v2Request 16
  obtain ⟨describes, same, samples, histograms, exemplars⟩ := contents fits
  refine ⟨symbols, fits, length, ?_, ?_, ?_, ?_⟩
  · have last : 15 < request.timeseries.length := by
      rw [length]
      decide
    have describesLast : request.timeseries[15].Describes request.symbols _ (v1Series 15) :=
      describes.get last (by decide)
    -- Decimal digits are not found by structural recursion, so the kernel finds them.
    have named : V1.Label.flatten (seriesLabels 15) =
        ["__name__", "test_requests_total", "instance", "host-15"] := by decide +kernel
    have traced : V1.Label.flatten (exemplarLabels 15) =
        ["trace_id", "0000000000000000000000000000000f"] := by decide
    obtain ⟨exemplar, _, describesExemplar, others, only⟩ :=
      List.forall₂_cons_right_iff.mp describesLast.exemplars
    cases others
    exact ⟨_, List.getElem?_eq_getElem last, named ▸ describesLast.labels #[],
      describesLast.histograms, exemplar, only, traced ▸ describesExemplar.labels #[]⟩
  · exact (congrArg (·.samples.toNat) same).trans samples
  · exact (congrArg (·.histograms.toNat) same).trans histograms
  · exact (congrArg (·.exemplars.toNat) same).trans exemplars

end RemoteWrite.Fixture
