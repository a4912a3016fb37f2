import RemoteWrite.Message.Histogram
import RemoteWrite.Message.MetricType
import RemoteWrite.Message.Sample

/-!
Contract: the messages of the 2.0 protocol.

Texts are not repeated in every series. The request carries a table of
symbols, and series refer to it by index.

Owns: exemplars, metadata, series, and the request, with their schemas.

Does not own: samples and histograms, which both protocols share, or the
construction of the symbol table.
-/

namespace RemoteWrite.V2

open Wire

structure Exemplar where
  labelRefs : List UInt32 := []
  value : Binary64 := .zero
  timestamp : Int64 := 0
deriving DecidableEq, Repr

/-- The description of a series; help and unit are references. -/
structure Metadata where
  metricType : Int32 := 0
  helpRef : UInt32 := 0
  unitRef : UInt32 := 0
deriving DecidableEq, Repr

/-- A series, with references to the names and values of its labels in
turn. -/
structure TimeSeries where
  labelRefs : List UInt32 := []
  samples : List Sample := []
  histograms : List Histogram := []
  exemplars : List Exemplar := []
  metadata : Option Metadata := none
  createdTimestamp : Int64 := 0
deriving DecidableEq, Repr

/-- A batch of series and all texts that they refer to. -/
structure Request where
  symbols : List String := []
  timeseries : List TimeSeries := []
deriving DecidableEq, Repr

/-- The name of a metric type, where zero and unknown numbers are
unspecified. -/
def metricTypeName (number : Int32) : String :=
  MetricType.nameOfNumber "Unspecified" number

def Exemplar.schema : Schema Exemplar where
  name := "Exemplar"
  empty := {}
  fields := [
    { name := "labels_refs"
      form := .packed .uint32 1
      get := Exemplar.labelRefs
      set := fun labelRefs exemplar => { exemplar with labelRefs } },
    { name := "value"
      form := .plain .double 2 .zero Binary64.isZero
      get := Exemplar.value
      set := fun value exemplar => { exemplar with value } },
    { name := "timestamp"
      form := .plain .int64 3 0 (· == 0)
      get := Exemplar.timestamp
      set := fun timestamp exemplar => { exemplar with timestamp } }]

def Metadata.schema : Schema Metadata where
  name := "Metadata"
  empty := {}
  fields := [
    { name := "r#type"
      form := .plain .int32 1 0 (· == 0)
      get := Metadata.metricType
      set := fun metricType metadata => { metadata with metricType } },
    { name := "help_ref"
      form := .plain .uint32 3 0 (· == 0)
      get := Metadata.helpRef
      set := fun helpRef metadata => { metadata with helpRef } },
    { name := "unit_ref"
      form := .plain .uint32 4 0 (· == 0)
      get := Metadata.unitRef
      set := fun unitRef metadata => { metadata with unitRef } }]

def TimeSeries.schema : Schema TimeSeries where
  name := "TimeSeries"
  empty := {}
  fields := [
    { name := "labels_refs"
      form := .packed .uint32 1
      get := TimeSeries.labelRefs
      set := fun labelRefs series => { series with labelRefs } },
    { name := "samples"
      form := Sample.schema.repeated 2
      get := TimeSeries.samples
      set := fun samples series => { series with samples } },
    { name := "histograms"
      form := Histogram.schema.repeated 3
      get := TimeSeries.histograms
      set := fun histograms series => { series with histograms } },
    { name := "exemplars"
      form := Exemplar.schema.repeated 4
      get := TimeSeries.exemplars
      set := fun exemplars series => { series with exemplars } },
    { name := "metadata"
      form := Metadata.schema.optional 5
      get := TimeSeries.metadata
      set := fun metadata series => { series with metadata } },
    { name := "created_timestamp"
      form := .plain .int64 6 0 (· == 0)
      get := TimeSeries.createdTimestamp
      set := fun createdTimestamp series => { series with createdTimestamp } }]

def Request.schema : Schema Request where
  name := "Request"
  empty := {}
  fields := [
    { name := "symbols"
      form := .repeated .text 4
      get := Request.symbols
      set := fun symbols request => { request with symbols } },
    { name := "timeseries"
      form := TimeSeries.schema.repeated 5
      get := Request.timeseries
      set := fun timeseries request => { request with timeseries } }]

end RemoteWrite.V2
