import RemoteWrite.Compression
import RemoteWrite.Encoder
import RemoteWrite.SymbolTable

/-!
Contract: requests for trying out clients and receivers.

Every series has one sample, every third one an exemplar, and every fifth one a
native histogram. Both protocols get the same contents.

Owns: the two builders, and the compressed body of a message.

Does not own: what is tried out with the requests.
-/

namespace RemoteWrite.Fixture

def timestamp : Int64 := 1700000000000

/-- Series are created a minute before they are sampled. -/
def createdTimestamp : Int64 := timestamp - 60000

def metricName : String := "test_requests_total"

def help : String := "Number of test requests."

def instanceName (index : Nat) : String := "host-" ++ Text.Numeral.render index

def traceId (index : Nat) : String :=
  let digits := Nat.toDigits 16 index
  String.ofList (List.replicate (32 - digits.length) '0' ++ digits)

def sample (index : Nat) : Sample where
  value := .ofNat index
  timestamp := timestamp

def histogram : Histogram where
  count := some (.int 4)
  sum := ⟨0x4025000000000000⟩
  bucketSchema := 3
  zeroThreshold := ⟨0x255BBA08CF8C979D⟩
  zeroCount := some (.int 1)
  positiveSpans := [⟨0, 2⟩]
  positiveDeltas := [2, -1]
  timestamp := timestamp

def histograms (index : Nat) : List Histogram :=
  if index % 5 = 0 then [histogram] else []

def v1Exemplars (index : Nat) : List V1.Exemplar :=
  if index % 3 = 0 then [⟨[⟨"trace_id", traceId index⟩], .ofNat index, timestamp⟩] else []

def v1Series (index : Nat) : V1.TimeSeries where
  labels := [⟨"__name__", metricName⟩, ⟨"instance", instanceName index⟩]
  samples := [sample index]
  exemplars := v1Exemplars index
  histograms := histograms index

def v1Request (series : Nat) : V1.WriteRequest where
  timeseries := (List.range series).map v1Series
  metadata := [⟨MetricType.counter.number, metricName, help, ""⟩]

def v2Exemplars (table : SymbolTable) (index : Nat) : List V2.Exemplar × SymbolTable :=
  if index % 3 = 0 then
    let (labelRefs, table) := table.symbolizeLabels ["trace_id", traceId index]
    ([⟨labelRefs, .ofNat index, timestamp⟩], table)
  else ([], table)

def v2Series (helpRef : UInt32) (table : SymbolTable) (index : Nat) :
    V2.TimeSeries × SymbolTable :=
  let (labelRefs, table) :=
    table.symbolizeLabels ["__name__", metricName, "instance", instanceName index]
  let (exemplars, table) := v2Exemplars table index
  ({ labelRefs
     samples := [sample index]
     histograms := histograms index
     exemplars
     metadata := some ⟨MetricType.counter.number, helpRef, 0⟩
     createdTimestamp }, table)

def v2SeriesList (helpRef : UInt32) (table : SymbolTable) :
    List Nat → List V2.TimeSeries × SymbolTable
  | [] => ([], table)
  | index :: rest =>
    let (series, table) := v2Series helpRef table index
    let (others, table) := v2SeriesList helpRef table rest
    (series :: others, table)

/-- A 2.0 request with the contents of the 1.0 request of the same size. -/
def v2Request (series : Nat) : V2.Request :=
  let (helpRef, table) := SymbolTable.new.symbolize help
  let (timeseries, table) := v2SeriesList helpRef table (List.range series)
  { symbols := table.symbols.toList, timeseries }

def request (protocol : Protocol) (series : Nat) : DecodedRequest :=
  match protocol with
  | .v1 => .v1 (v1Request series)
  | .v2 => .v2 (v2Request series)

/-- The compressed body of a message, if it can be encoded and compressed. -/
def snappyBody? (message : WriteMessage) : Option Bytes :=
  match (Encoder.new.encode message).payload with
  | .error _ => none
  | .ok payload =>
    match Compression.snappy.compress payload [] with
    | .error _ => none
    | .ok compressed => some compressed.bytes

end RemoteWrite.Fixture
