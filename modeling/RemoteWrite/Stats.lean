import RemoteWrite.Message.Decoded

/-!
Contract: the accounting of written data.

Receivers report how many samples, histograms, and exemplars they wrote. The
absence of a report proves nothing, so stats also say whether they were
reported at all.

Owns:
- the three counters and the flag;
- their saturating sum, where the flag is that of the second summand;
- the contents of a request.

Does not own: the headers that carry stats, which are in `Stats.Headers`.
-/

namespace RemoteWrite

/-- The numbers of samples, histograms, and exemplars written, and whether a
receiver reported them. -/
structure WriteStats where
  samples : UInt64 := 0
  histograms : UInt64 := 0
  exemplars : UInt64 := 0
  confirmed : Bool := false
deriving DecidableEq, Repr

/-- The sum of two counters, or the largest counter where the sum does not
fit. -/
def saturatingAdd (left right : UInt64) : UInt64 :=
  if left.toNat + right.toNat < 2 ^ 64 then left + right else UInt64.ofNat (2 ^ 64 - 1)

namespace WriteStats

/-- The sum of the counters, confirmed if the second summand is. -/
def add (left right : WriteStats) : WriteStats where
  samples := saturatingAdd left.samples right.samples
  histograms := saturatingAdd left.histograms right.histograms
  exemplars := saturatingAdd left.exemplars right.exemplars
  confirmed := right.confirmed

instance : Add WriteStats := ⟨add⟩

def noDataWritten (stats : WriteStats) : Bool :=
  stats.samples == 0 && stats.histograms == 0 && stats.exemplars == 0

/-- The number of float and histogram samples. -/
def allSamples (stats : WriteStats) : UInt64 :=
  saturatingAdd stats.samples stats.histograms

/-- The contents of a list of series, given how many samples, histograms, and
exemplars each one holds. They describe what was sent, so they are not
confirmed. -/
def ofCounts {Series : Type} (samples histograms exemplars : Series → Nat)
    (series : List Series) : WriteStats where
  samples := UInt64.ofNat (series.map samples).sum
  histograms := UInt64.ofNat (series.map histograms).sum
  exemplars := UInt64.ofNat (series.map exemplars).sum

def ofV1 (request : V1.WriteRequest) : WriteStats :=
  ofCounts (fun series => series.samples.length) (fun series => series.histograms.length)
    (fun series => series.exemplars.length) request.timeseries

def ofV2 (request : V2.Request) : WriteStats :=
  ofCounts (fun series => series.samples.length) (fun series => series.histograms.length)
    (fun series => series.exemplars.length) request.timeseries

def ofRequest : DecodedRequest → WriteStats
  | .v1 request => ofV1 request
  | .v2 request => ofV2 request

end WriteStats
end RemoteWrite
