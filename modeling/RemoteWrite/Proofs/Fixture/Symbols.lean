import Mathlib.Data.List.Nodup
import Mathlib.Data.List.Perm.Basic
import RemoteWrite.Fixture
import RemoteWrite.Proofs.Message.Correspondence
import RemoteWrite.Proofs.Text.Hexadecimal
import RemoteWrite.Proofs.Text.Numeral

/-!
Contract: one table holds the texts of all series of a built request.

Owns:
- the builders step by step, with the table that each step leaves;
- the texts that the table interns, in order;
- the symbols of a request, none of them twice, and their number.

Does not own: what the series say.
-/

namespace RemoteWrite.Fixture

open SymbolTable

/-! ## Builders -/

def exemplarLabels (index : Nat) : List V1.Label := [⟨"trace_id", traceId index⟩]

def seriesLabels (index : Nat) : List V1.Label :=
  [⟨"__name__", metricName⟩, ⟨"instance", instanceName index⟩]

theorem v2Exemplars_of_third (table : SymbolTable) {index : Nat} (third : index % 3 = 0) :
    v2Exemplars table index =
      let interned := table.symbolizeLabels (V1.Label.flatten (exemplarLabels index))
      ([⟨interned.1, .ofNat index, timestamp⟩], interned.2) := by
  have labels : V1.Label.flatten (exemplarLabels index) = ["trace_id", traceId index] := rfl
  rw [v2Exemplars, if_pos third, labels]

theorem v2Series_eq (helpRef : UInt32) (table : SymbolTable) (index : Nat) :
    v2Series helpRef table index =
      let interned := table.symbolizeLabels (V1.Label.flatten (seriesLabels index))
      let exemplars := v2Exemplars interned.2 index
      ({ labelRefs := interned.1
         samples := [sample index]
         histograms := histograms index
         exemplars := exemplars.1
         metadata := some ⟨MetricType.counter.number, helpRef, 0⟩
         createdTimestamp }, exemplars.2) := by
  have labels : V1.Label.flatten (seriesLabels index) =
    ["__name__", metricName, "instance", instanceName index] := rfl
  rw [v2Series, labels]

theorem v2SeriesList_cons (helpRef : UInt32) (table : SymbolTable) (index : Nat)
    (rest : List Nat) :
    v2SeriesList helpRef table (index :: rest) =
      let first := v2Series helpRef table index
      let others := v2SeriesList helpRef first.2 rest
      (first.1 :: others.1, others.2) := by
  rw [v2SeriesList]

theorem v2Request_eq (count : Nat) :
    v2Request count =
      let helped := SymbolTable.new.symbolize help
      let series := v2SeriesList helped.1 helped.2 (List.range count)
      { symbols := series.2.symbols.toList, timeseries := series.1 } := by
  rw [v2Request]

/-! ## Interned texts -/

def exemplarTexts (index : Nat) : List String :=
  if index % 3 = 0 then V1.Label.flatten (exemplarLabels index) else []

/-- The texts that a series interns, in order. -/
def seriesTexts (index : Nat) : List String :=
  V1.Label.flatten (seriesLabels index) ++ exemplarTexts index

/-- The texts that a request interns, in order. -/
def requestTexts (count : Nat) : List String :=
  help :: (List.range count).flatMap seriesTexts

section Tables

variable {table : SymbolTable} {texts : List String} (records : table.Records texts)
include records

theorem records_v2Exemplars (index : Nat) :
    (v2Exemplars table index).2.Records (texts ++ exemplarTexts index) := by
  unfold exemplarTexts
  by_cases third : index % 3 = 0
  · rw [v2Exemplars_of_third table third, if_pos third]
    exact (records.symbolizeLabels _).2
  · rwa [v2Exemplars, if_neg third, if_neg third, List.append_nil]

theorem records_v2Series (helpRef : UInt32) (index : Nat) :
    (v2Series helpRef table index).2.Records (texts ++ seriesTexts index) := by
  have labelled := (records.symbolizeLabels (V1.Label.flatten (seriesLabels index))).2
  rw [v2Series_eq, seriesTexts, ← List.append_assoc]
  exact records_v2Exemplars labelled index

theorem records_v2SeriesList (helpRef : UInt32) (indices : List Nat) :
    (v2SeriesList helpRef table indices).2.Records (texts ++ indices.flatMap seriesTexts) := by
  induction indices generalizing table texts with
  | nil => rwa [List.flatMap_nil, List.append_nil]
  | cons index rest inductionHypothesis =>
      rw [v2SeriesList_cons, List.flatMap_cons, ← List.append_assoc]
      exact inductionHypothesis (records_v2Series records helpRef index)

end Tables

/-- The table that the 2.0 request is sent with. -/
theorem exists_records_v2Request (count : Nat) :
    ∃ last : SymbolTable, last.Records (requestTexts count) ∧
      (v2Request count).symbols = last.symbols.toList := by
  have helped := (records_new.symbolize help).2
  have recorded := records_v2SeriesList helped (SymbolTable.new.symbolize help).1 (List.range count)
  simp only [v2Request_eq]
  exact ⟨_, recorded, rfl⟩

/-! ## Distinct texts -/

/-- How many multiples of a step are below a bound. Zero is one of them. -/
theorem length_multiples {step : Nat} (positive : 0 < step) (count : Nat) :
    ((List.range count).filter (· % step = 0)).length = (count + (step - 1)) / step := by
  induction count with
  | zero =>
      rw [Nat.zero_add, Nat.div_eq_of_lt (Nat.sub_lt positive Nat.one_pos)]
      rfl
  | succ count inductionHypothesis =>
      have next : count + 1 + (step - 1) = count + (step - 1) + 1 := by omega
      have whole : count + (step - 1) + 1 = count + step := by omega
      have multiple : step ∣ count + step ↔ count % step = 0 := by
        rw [Nat.dvd_add_self_right, Nat.dvd_iff_mod_eq_zero]
      rw [List.range_succ, List.filter_append, List.length_append, inductionHypothesis, next,
        Nat.succ_div, whole, if_congr multiple rfl rfl]
      by_cases last : count % step = 0
      · simp [last]
      · simp [last]

theorem toList_instanceName (index : Nat) :
    (instanceName index).toList = ['h', 'o', 's', 't', '-'] ++ Text.Numeral.digits index := by
  simp [instanceName, Text.Numeral.render]

theorem instanceName_injective : Function.Injective instanceName := by
  intro index other same
  have digits := congrArg String.toList same
  rw [toList_instanceName, toList_instanceName, List.append_cancel_left_eq] at digits
  exact Text.Numeral.digits_injective digits

/-- A trace id is a hexadecimal numeral. -/
theorem value?_traceId (index : Nat) :
    Text.Hexadecimal.value? (traceId index).toList = some index := by
  unfold traceId
  rw [String.toList_ofList]
  exact Text.Hexadecimal.value?_padded _ index

theorem traceId_injective : Function.Injective traceId := by
  intro index other same
  have read := value?_traceId index
  rw [same, value?_traceId] at read
  exact (Option.some.inj read).symm

/-- The texts that all series share. -/
def sharedTexts : List String :=
  ["", help, "__name__", metricName, "instance", "trace_id"]

/-- The texts of a request with series, each of them once. -/
def distinctTexts (count : Nat) : List String :=
  sharedTexts ++ ((List.range count).map instanceName ++
    ((List.range count).filter (· % 3 = 0)).map traceId)

theorem instanceName_notMem_sharedTexts (index : Nat) : instanceName index ∉ sharedTexts := by
  have heads : ∀ text ∈ sharedTexts, text.toList.head? ≠ some 'h' := by decide
  intro shared
  apply heads _ shared
  rw [toList_instanceName]
  rfl

theorem traceId_notMem_sharedTexts (index : Nat) : traceId index ∉ sharedTexts := by
  have numerals : ∀ text ∈ sharedTexts,
      text.toList = [] ∨ Text.Hexadecimal.value? text.toList = none := by decide
  intro shared
  rcases numerals _ shared with empty | unread
  · unfold traceId at empty
    rw [String.toList_ofList] at empty
    exact Nat.toDigits_ne_nil (List.append_eq_nil_iff.mp empty).2
  · rw [value?_traceId] at unread
    cases unread

theorem instanceName_ne_traceId (index other : Nat) : instanceName index ≠ traceId other := by
  intro same
  have read := value?_traceId other
  rw [← same, toList_instanceName] at read
  cases read

theorem nodup_distinctTexts (count : Nat) : (distinctTexts count).Nodup := by
  unfold distinctTexts
  rw [List.nodup_append, List.nodup_append]
  refine ⟨by decide, ⟨?_, ?_, ?_⟩, ?_⟩
  · exact List.nodup_range.map instanceName_injective
  · exact (List.nodup_range.filter _).map traceId_injective
  · intro instanceText named traceText traced same
    obtain ⟨index, _, rfl⟩ := List.mem_map.mp named
    obtain ⟨other, _, rfl⟩ := List.mem_map.mp traced
    exact instanceName_ne_traceId index other same
  · rintro text shared _ own rfl
    rcases List.mem_append.mp own with named | traced
    · obtain ⟨index, _, rfl⟩ := List.mem_map.mp named
      exact instanceName_notMem_sharedTexts index shared
    · obtain ⟨index, _, rfl⟩ := List.mem_map.mp traced
      exact traceId_notMem_sharedTexts index shared

theorem mem_seriesTexts {text : String} {index : Nat} :
    text ∈ seriesTexts index ↔
      text ∈ ["__name__", metricName, "instance"] ∨ text = instanceName index ∨
        index % 3 = 0 ∧ (text = "trace_id" ∨ text = traceId index) := by
  unfold seriesTexts exemplarTexts
  by_cases third : index % 3 = 0
  · simp [third, V1.Label.flatten, seriesLabels, exemplarLabels, or_assoc]
  · simp [third, V1.Label.flatten, seriesLabels, or_assoc]

theorem mem_sharedTexts {text : String} :
    text ∈ sharedTexts ↔
      text = "" ∨ text = help ∨ text ∈ ["__name__", metricName, "instance"] ∨
        text = "trace_id" := by
  simp [sharedTexts, or_assoc]

theorem mem_requestTexts {text : String} {count : Nat} :
    text ∈ requestTexts count ↔ text = help ∨ ∃ index < count, text ∈ seriesTexts index := by
  simp [requestTexts]

theorem mem_distinctTexts {text : String} {count : Nat} :
    text ∈ distinctTexts count ↔
      text ∈ sharedTexts ∨ (∃ index < count, text = instanceName index) ∨
        ∃ index < count, index % 3 = 0 ∧ text = traceId index := by
  simp [distinctTexts, and_assoc, eq_comm]

/-- The first series interns the texts that all of them share, and every series
its own. -/
theorem mem_distinctTexts_iff_interned {count : Nat} (positive : 0 < count) (text : String) :
    text ∈ distinctTexts count ↔ text ∈ "" :: requestTexts count := by
  rw [List.mem_cons, mem_requestTexts, mem_distinctTexts, mem_sharedTexts]
  constructor
  · rintro ((empty | helps | label | traced) | ⟨index, inRange, named⟩ |
      ⟨index, inRange, third, traced⟩)
    · exact .inl empty
    · exact .inr (.inl helps)
    · exact .inr (.inr ⟨0, positive, mem_seriesTexts.mpr (.inl label)⟩)
    · exact .inr (.inr ⟨0, positive, mem_seriesTexts.mpr (.inr (.inr ⟨rfl, .inl traced⟩))⟩)
    · exact .inr (.inr ⟨index, inRange, mem_seriesTexts.mpr (.inr (.inl named))⟩)
    · exact .inr (.inr ⟨index, inRange, mem_seriesTexts.mpr (.inr (.inr ⟨third, .inr traced⟩))⟩)
  · rintro (empty | helps | ⟨index, inRange, interned⟩)
    · exact .inl (.inl empty)
    · exact .inl (.inr (.inl helps))
    · rcases mem_seriesTexts.mp interned with label | named | ⟨third, traced | traced⟩
      · exact .inl (.inr (.inr (.inl label)))
      · exact .inr (.inl ⟨index, inRange, named⟩)
      · exact .inl (.inr (.inr (.inr traced)))
      · exact .inr (.inr ⟨index, inRange, third, traced⟩)

/-- A request with series has six texts that all of them share, a name for each
series, and a trace id for every third one. -/
theorem length_symbols_v2Request (count : Nat) :
    (v2Request count).symbols.length =
      if count = 0 then 2 else 6 + (count + (count + 2) / 3) := by
  obtain ⟨last, recorded, sent⟩ := exists_records_v2Request count
  rw [sent, recorded.symbols]
  by_cases none : count = 0
  · rw [none]
    decide
  · have positive : 0 < count := Nat.pos_of_ne_zero none
    have same : (symbolsOf (requestTexts count)).Perm (distinctTexts count) := by
      rw [List.perm_ext_iff_of_nodup (nodup_symbolsOf _) (nodup_distinctTexts count)]
      intro text
      rw [mem_symbolsOf, mem_distinctTexts_iff_interned positive]
    rw [if_neg none, same.length_eq, distinctTexts, List.length_append, List.length_append,
      List.length_map, List.length_map, List.length_range, length_multiples (by decide)]
    rfl

end RemoteWrite.Fixture
