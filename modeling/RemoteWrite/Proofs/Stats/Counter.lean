import RemoteWrite.Stats.Headers

/-!
Contract: the three counters of stats, in one treatment.

Owns:
- the counters as a type, with their places in stats and in headers;
- the saturating sum as a bounded sum of natural numbers, which is zero only
  if all summands are;
- what the headers of a response count and whether they confirm anything.

Does not own: which responses are added up.
-/

namespace RemoteWrite

inductive Counter where
  | samples
  | histograms
  | exemplars
deriving DecidableEq, Repr

namespace Counter

def all : List Counter := [samples, histograms, exemplars]

theorem mem_all (counter : Counter) : counter ∈ all := by
  cases counter <;> decide

def headerName : Counter → String
  | samples => WriteStats.samplesHeaderName
  | histograms => WriteStats.histogramsHeaderName
  | exemplars => WriteStats.exemplarsHeaderName

theorem headerName_injective : Function.Injective headerName := by
  intro counter other
  cases counter <;> cases other <;> decide

def read (stats : WriteStats) : Counter → UInt64
  | samples => stats.samples
  | histograms => stats.histograms
  | exemplars => stats.exemplars

/-- The largest value of a counter. -/
def limit : Nat := 2 ^ 64 - 1

/-- What the first value of the header counts: the number that it denotes, or
nothing if it is missing, not text, or no numeral below `2 ^ 64`. -/
def counted (headers : Http.Headers) (counter : Counter) : Nat :=
  (((headers.text? counter.headerName).bind fun text =>
    Text.Numeral.parseUInt64? (Text.trim text.toList)).map UInt64.toNat).getD 0

/-- The first value of the header is not empty. -/
def reported (headers : Http.Headers) (counter : Counter) : Bool :=
  (headers.first? counter.headerName).any fun value => value ≠ []

end Counter

/-! ## Sums -/

/-- Counters add up until they reach the limit. -/
theorem toNat_saturatingAdd (left right : UInt64) :
    (saturatingAdd left right).toNat = min Counter.limit (left.toNat + right.toNat) := by
  have leftBound := left.toNat_lt
  have rightBound := right.toNat_lt
  rw [Counter.limit, saturatingAdd]
  by_cases fits : left.toNat + right.toNat < 2 ^ 64
  · rw [if_pos fits, UInt64.toNat_add, Nat.mod_eq_of_lt fits]
    omega
  · rw [if_neg fits, UInt64.toNat_ofNat_of_lt' (by decide)]
    omega

theorem zero_saturatingAdd (count : UInt64) : saturatingAdd 0 count = count := by
  have bound := count.toNat_lt
  rw [saturatingAdd, if_pos (by rwa [UInt64.toNat_zero, Nat.zero_add]), UInt64.zero_add]

theorem WriteStats.empty_add (stats : WriteStats) : WriteStats.add {} stats = stats := by
  rw [WriteStats.add, zero_saturatingAdd, zero_saturatingAdd, zero_saturatingAdd]

namespace Counter

@[simp]
theorem read_empty (counter : Counter) : counter.read {} = 0 := by
  cases counter <;> rfl

theorem read_add (counter : Counter) (left right : WriteStats) :
    counter.read (left.add right) = saturatingAdd (counter.read left) (counter.read right) := by
  cases counter <;> rfl

/-- Saturation does not depend on how a sum is grouped. -/
theorem toNat_read_add (counter : Counter) {left right : WriteStats} {total : Nat}
    (bounded : (counter.read left).toNat = min limit total) :
    (counter.read (left.add right)).toNat =
      min limit (total + (counter.read right).toNat) := by
  rw [read_add, toNat_saturatingAdd, bounded]
  omega

end Counter

/-- Stats are their counters and the flag. -/
theorem WriteStats.eq_of_read {left right : WriteStats}
    (counters : ∀ counter : Counter, counter.read left = counter.read right)
    (confirmed : left.confirmed = right.confirmed) : left = right := by
  have samples : left.samples = right.samples := counters .samples
  have histograms : left.histograms = right.histograms := counters .histograms
  have exemplars : left.exemplars = right.exemplars := counters .exemplars
  cases left
  cases right
  simp only [WriteStats.mk.injEq]
  exact ⟨samples, histograms, exemplars, confirmed⟩

theorem WriteStats.noDataWritten_iff (stats : WriteStats) :
    stats.noDataWritten = true ↔ ∀ counter : Counter, counter.read stats = 0 := by
  rw [noDataWritten, Bool.and_eq_true, Bool.and_eq_true, beq_iff_eq, beq_iff_eq, beq_iff_eq]
  constructor
  · rintro ⟨⟨samples, histograms⟩, exemplars⟩ counter
    cases counter with
    | samples => exact samples
    | histograms => exact histograms
    | exemplars => exact exemplars
  · exact fun zero => ⟨⟨zero .samples, zero .histograms⟩, zero .exemplars⟩

/-- Saturation hides no count. -/
theorem Counter.read_eq_zero_iff {counter : Counter} {stats : WriteStats} {counts : List Nat}
    (bounded : (counter.read stats).toNat = min limit counts.sum) :
    counter.read stats = 0 ↔ ∀ count ∈ counts, count = 0 := by
  rw [← List.sum_eq_zero_iff_forall_eq_nat, ← UInt64.toNat_inj, bounded, UInt64.toNat_zero, limit]
  omega

/-! ## Reports -/

namespace WriteStats

namespace Report

theorem count_read (headers : Http.Headers) (name : String) :
    (read headers name).count.toNat =
      (((headers.text? name).bind fun text =>
        Text.Numeral.parseUInt64? (Text.trim text.toList)).map UInt64.toNat).getD 0 := by
  rw [Http.Headers.text?, read]
  cases headers.first? name with
  | none => rfl
  | some value =>
      cases value with
      | nil => rfl
      | cons byte rest =>
          simp only [Option.bind_some]
          cases (Text.visible? (byte :: rest)).bind fun text =>
              Text.Numeral.parseUInt64? (Text.trim text.toList) with
          | none => rfl
          | some count => rfl

theorem isPresent_read (headers : Http.Headers) (name : String) :
    (read headers name).isPresent = (headers.first? name).any fun value => value ≠ [] := by
  rw [read]
  cases headers.first? name with
  | none => rfl
  | some value =>
      cases value with
      | nil => rfl
      | cons byte rest =>
          simp only [Option.any_some]
          cases (Text.visible? (byte :: rest)).bind fun text =>
              Text.Numeral.parseUInt64? (Text.trim text.toList) with
          | none => rfl
          | some count => rfl

end Report

/-- Only the values of the stats headers are looked at. -/
theorem ofHeaders_congr {headers others : Http.Headers}
    (same : ∀ counter : Counter,
      headers.values counter.headerName = others.values counter.headerName) :
    ofHeaders headers = ofHeaders others := by
  have reports (counter : Counter) :
      Report.read headers counter.headerName = Report.read others counter.headerName := by
    rw [Report.read, Report.read, Http.Headers.first?, Http.Headers.first?, same counter]
  have samples := reports .samples
  have histograms := reports .histograms
  have exemplars := reports .exemplars
  simp only [Counter.headerName] at samples histograms exemplars
  rw [ofHeaders, ofHeaders, samples, histograms, exemplars]

/-- The stats of response headers, as far as they are valid. -/
def ofValidHeaders (headers : Http.Headers) : WriteStats :=
  match ofHeaders headers with
  | .ok stats => stats
  | .error error => error.stats

theorem ofValidHeaders_eq (headers : Http.Headers) :
    ofValidHeaders headers =
      { samples := (Report.read headers samplesHeaderName).count
        histograms := (Report.read headers histogramsHeaderName).count
        exemplars := (Report.read headers exemplarsHeaderName).count
        confirmed := (Report.read headers samplesHeaderName).isPresent ||
          (Report.read headers histogramsHeaderName).isPresent ||
          (Report.read headers exemplarsHeaderName).isPresent } := by
  rw [ofValidHeaders, ofHeaders]
  cases [Report.read headers samplesHeaderName, Report.read headers histogramsHeaderName,
      Report.read headers exemplarsHeaderName].filterMap Report.invalid? with
  | nil => rfl
  | cons invalid rest => rfl

/-- Every counter is what its header counts, whether or not the others are
valid. -/
theorem read_ofValidHeaders (headers : Http.Headers) (counter : Counter) :
    (counter.read (ofValidHeaders headers)).toNat = counter.counted headers := by
  rw [ofValidHeaders_eq]
  cases counter with
  | samples => exact Report.count_read headers samplesHeaderName
  | histograms => exact Report.count_read headers histogramsHeaderName
  | exemplars => exact Report.count_read headers exemplarsHeaderName

/-- Any nonempty header confirms the stats. -/
theorem confirmed_ofValidHeaders (headers : Http.Headers) :
    (ofValidHeaders headers).confirmed = Counter.all.any (Counter.reported headers) := by
  rw [ofValidHeaders_eq]
  simp only [Report.isPresent_read, Counter.all, List.any_cons, List.any_nil, Bool.or_false,
    Bool.or_assoc]
  rfl

end WriteStats
end RemoteWrite
