import RemoteWrite.Message.Histogram
import RemoteWrite.Message.MetricType
import RemoteWrite.Message.Sample

/-!
Contract: the messages of the 1.0 protocol.

Owns: labels, exemplars, series, metadata, and the write request, with their
schemas.

Does not own: samples and histograms, which both protocols share.
-/

namespace RemoteWrite.V1

open Wire

structure Label where
  name : String := ""
  value : String := ""
deriving DecidableEq, Repr

structure Exemplar where
  labels : List Label := []
  value : Binary64 := .zero
  timestamp : Int64 := 0
deriving DecidableEq, Repr

structure TimeSeries where
  labels : List Label := []
  samples : List Sample := []
  exemplars : List Exemplar := []
  histograms : List Histogram := []
deriving DecidableEq, Repr

structure Metadata where
  metricType : Int32 := 0
  familyName : String := ""
  help : String := ""
  unit : String := ""
deriving DecidableEq, Repr

/-- A batch of series; metadata is sent apart from them. -/
structure WriteRequest where
  timeseries : List TimeSeries := []
  metadata : List Metadata := []
deriving DecidableEq, Repr

/-- The name of a metric type, where zero and unknown numbers are unknown. -/
def metricTypeName (number : Int32) : String :=
  MetricType.nameOfNumber "Unknown" number

def Label.schema : Schema Label where
  name := "Label"
  empty := {}
  fields := [
    { name := "name"
      form := .plain .text 1 "" String.isEmpty
      get := Label.name
      set := fun name label => { label with name } },
    { name := "value"
      form := .plain .text 2 "" String.isEmpty
      get := Label.value
      set := fun value label => { label with value } }]

def Exemplar.schema : Schema Exemplar where
  name := "Exemplar"
  empty := {}
  fields := [
    { name := "labels"
      form := Label.schema.repeated 1
      get := Exemplar.labels
      set := fun labels exemplar => { exemplar with labels } },
    { name := "value"
      form := .plain .double 2 .zero Binary64.isZero
      get := Exemplar.value
      set := fun value exemplar => { exemplar with value } },
    { name := "timestamp"
      form := .plain .int64 3 0 (· == 0)
      get := Exemplar.timestamp
      set := fun timestamp exemplar => { exemplar with timestamp } }]

def TimeSeries.schema : Schema TimeSeries where
  name := "TimeSeries"
  empty := {}
  fields := [
    { name := "labels"
      form := Label.schema.repeated 1
      get := TimeSeries.labels
      set := fun labels series => { series with labels } },
    { name := "samples"
      form := Sample.schema.repeated 2
      get := TimeSeries.samples
      set := fun samples series => { series with samples } },
    { name := "exemplars"
      form := Exemplar.schema.repeated 3
      get := TimeSeries.exemplars
      set := fun exemplars series => { series with exemplars } },
    { name := "histograms"
      form := Histogram.schema.repeated 4
      get := TimeSeries.histograms
      set := fun histograms series => { series with histograms } }]

def Metadata.schema : Schema Metadata where
  name := "MetricMetadata"
  empty := {}
  fields := [
    { name := "r#type"
      form := .plain .int32 1 0 (· == 0)
      get := Metadata.metricType
      set := fun metricType metadata => { metadata with metricType } },
    { name := "metric_family_name"
      form := .plain .text 2 "" String.isEmpty
      get := Metadata.familyName
      set := fun familyName metadata => { metadata with familyName } },
    { name := "help"
      form := .plain .text 4 "" String.isEmpty
      get := Metadata.help
      set := fun help metadata => { metadata with help } },
    { name := "unit"
      form := .plain .text 5 "" String.isEmpty
      get := Metadata.unit
      set := fun unit metadata => { metadata with unit } }]

def WriteRequest.schema : Schema WriteRequest where
  name := "WriteRequest"
  empty := {}
  fields := [
    { name := "timeseries"
      form := TimeSeries.schema.repeated 1
      get := WriteRequest.timeseries
      set := fun timeseries request => { request with timeseries } },
    { name := "metadata"
      form := Metadata.schema.repeated 3
      get := WriteRequest.metadata
      set := fun metadata request => { request with metadata } }]

end RemoteWrite.V1
