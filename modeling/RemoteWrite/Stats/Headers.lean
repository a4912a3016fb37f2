import RemoteWrite.Http.Headers
import RemoteWrite.Stats
import RemoteWrite.Text.Numeral
import RemoteWrite.Text.Quoted
import RemoteWrite.Text.WhiteSpace

/-!
Contract: stats as response headers.

Each counter has a header of its own. The first value of a header counts. A
header that is absent or empty counts as zero; one that is present but no
counter counts as zero too and is reported. Any nonempty header confirms the
stats.

Owns:
- the names of the three headers;
- reading stats and the headers that are no counters;
- writing stats in place of all earlier values.

Does not own: header lists.
-/

namespace RemoteWrite

/-- A stats header that is no counter, with the text of its value. -/
structure InvalidHeader where
  name : String
  value : String
deriving DecidableEq, Repr

/-- The headers that are no counters, and the stats of the others. -/
structure StatsHeaderError where
  stats : WriteStats
  invalid : List InvalidHeader
deriving DecidableEq, Repr

/-- The text of a header error: every invalid header with its value in
quotes. -/
def StatsHeaderError.message (error : StatsHeaderError) : String :=
  "invalid write stats headers: " ++
    ", ".intercalate (error.invalid.map fun header =>
      header.name ++ "=" ++ Text.quoted header.value)

namespace WriteStats

def samplesHeaderName : String := "x-prometheus-remote-write-samples-written"

def histogramsHeaderName : String := "x-prometheus-remote-write-histograms-written"

def exemplarsHeaderName : String := "x-prometheus-remote-write-exemplars-written"

/-- What a stats header says. -/
inductive Report where
  | absent
  | counter (count : UInt64)
  | invalid (header : InvalidHeader)
deriving DecidableEq, Repr

namespace Report

def count : Report → UInt64
  | counter count => count
  | _ => 0

def isPresent : Report → Bool
  | absent => false
  | _ => true

def invalid? : Report → Option InvalidHeader
  | invalid header => some header
  | _ => none

/-- Read a header by its first value. -/
def read (headers : Http.Headers) (name : String) : Report :=
  match headers.first? name with
  | none => absent
  | some [] => absent
  | some value =>
    match (Text.visible? value).bind fun text =>
        Text.Numeral.parseUInt64? (Text.trim text.toList) with
    | some count => counter count
    | none => invalid ⟨name, Text.lossy value⟩

end Report

def ofHeaders (headers : Http.Headers) : Except StatsHeaderError WriteStats :=
  let samples := Report.read headers samplesHeaderName
  let histograms := Report.read headers histogramsHeaderName
  let exemplars := Report.read headers exemplarsHeaderName
  let stats : WriteStats :=
    { samples := samples.count
      histograms := histograms.count
      exemplars := exemplars.count
      confirmed := samples.isPresent || histograms.isPresent || exemplars.isPresent }
  match [samples, histograms, exemplars].filterMap Report.invalid? with
  | [] => .ok stats
  | invalid => .error ⟨stats, invalid⟩

/-- Write all three counters, zero or not, in place of any earlier values. -/
def toHeaders (stats : WriteStats) (headers : Http.Headers) : Http.Headers :=
  [(samplesHeaderName, stats.samples), (histogramsHeaderName, stats.histograms),
      (exemplarsHeaderName, stats.exemplars)].foldl
    (fun headers (name, count) =>
      headers.insert name (Text.utf8 (Text.Numeral.render count.toNat)))
    headers

end WriteStats
end RemoteWrite
