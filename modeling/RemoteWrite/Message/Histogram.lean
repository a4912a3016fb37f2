import RemoteWrite.Wire.Schema

/-!
Contract: native histograms, which both protocols share.

Owns:
- bucket spans, integer and float counts, and the histogram itself, with their
  schemas;
- the known reset hints.

Does not own: the series that hold histograms.
-/

namespace RemoteWrite

/-- A run of consecutive buckets and the gap in front of it. -/
structure BucketSpan where
  offset : Int32 := 0
  length : UInt32 := 0
deriving DecidableEq, Repr

/-- A count of observations: an integer, or a float in histograms of float
buckets. -/
inductive Count where
  | int (count : UInt64)
  | float (count : Binary64)
deriving DecidableEq, Repr

/-- A native histogram. Integer buckets are given by the differences between
neighbouring counts, float buckets by the counts themselves. -/
structure Histogram where
  count : Option Count := none
  sum : Binary64 := .zero
  bucketSchema : Int32 := 0
  zeroThreshold : Binary64 := .zero
  zeroCount : Option Count := none
  negativeSpans : List BucketSpan := []
  negativeDeltas : List Int64 := []
  negativeCounts : List Binary64 := []
  positiveSpans : List BucketSpan := []
  positiveDeltas : List Int64 := []
  positiveCounts : List Binary64 := []
  resetHint : Int32 := 0
  timestamp : Int64 := 0
  customValues : List Binary64 := []
deriving DecidableEq, Repr

/-- Whether a histogram was reset since the previous sample. -/
inductive ResetHint where
  | unknown
  | yes
  | no
  | gauge
deriving DecidableEq, Repr

/-- The hint of a number; numbers without a hint mean that nothing is
known. -/
def ResetHint.ofNumber (number : Int32) : ResetHint :=
  if number = 1 then yes else if number = 2 then no else if number = 3 then gauge
  else unknown

def ResetHint.name : ResetHint → String
  | unknown => "Unknown"
  | yes => "Yes"
  | no => "No"
  | gauge => "Gauge"

open Wire

def BucketSpan.schema : Schema BucketSpan where
  name := "BucketSpan"
  empty := {}
  fields := [
    { name := "offset"
      form := .plain .sint32 1 0 (· == 0)
      get := BucketSpan.offset
      set := fun offset span => { span with offset } },
    { name := "length"
      form := .plain .uint32 2 0 (· == 0)
      get := BucketSpan.length
      set := fun length span => { span with length } }]

namespace Count

def ofEither : Either UInt64 Binary64 → Count
  | .first count => .int count
  | .second count => .float count

def toEither : Count → Either UInt64 Binary64
  | .int count => .first count
  | .float count => .second count

/-- A count under one of two field numbers, the first for integers. -/
def form (intNumber floatNumber : Nat) : FieldForm (Option Count) :=
  .oneOf .uint64 intNumber .double floatNumber ofEither toEither

end Count

namespace Histogram

def schema : Schema Histogram where
  name := "Histogram"
  empty := {}
  fields := [
    { name := "count"
      form := Count.form 1 2
      get := Histogram.count
      set := fun count histogram => { histogram with count } },
    { name := "sum"
      form := .plain .double 3 .zero Binary64.isZero
      get := Histogram.sum
      set := fun sum histogram => { histogram with sum } },
    { name := "schema"
      form := .plain .sint32 4 0 (· == 0)
      get := Histogram.bucketSchema
      set := fun bucketSchema histogram => { histogram with bucketSchema } },
    { name := "zero_threshold"
      form := .plain .double 5 .zero Binary64.isZero
      get := Histogram.zeroThreshold
      set := fun zeroThreshold histogram => { histogram with zeroThreshold } },
    { name := "zero_count"
      form := Count.form 6 7
      get := Histogram.zeroCount
      set := fun zeroCount histogram => { histogram with zeroCount } },
    { name := "negative_spans"
      form := BucketSpan.schema.repeated 8
      get := Histogram.negativeSpans
      set := fun negativeSpans histogram => { histogram with negativeSpans } },
    { name := "negative_deltas"
      form := .packed .sint64 9
      get := Histogram.negativeDeltas
      set := fun negativeDeltas histogram => { histogram with negativeDeltas } },
    { name := "negative_counts"
      form := .packed .double 10
      get := Histogram.negativeCounts
      set := fun negativeCounts histogram => { histogram with negativeCounts } },
    { name := "positive_spans"
      form := BucketSpan.schema.repeated 11
      get := Histogram.positiveSpans
      set := fun positiveSpans histogram => { histogram with positiveSpans } },
    { name := "positive_deltas"
      form := .packed .sint64 12
      get := Histogram.positiveDeltas
      set := fun positiveDeltas histogram => { histogram with positiveDeltas } },
    { name := "positive_counts"
      form := .packed .double 13
      get := Histogram.positiveCounts
      set := fun positiveCounts histogram => { histogram with positiveCounts } },
    { name := "reset_hint"
      form := .plain .int32 14 0 (· == 0)
      get := Histogram.resetHint
      set := fun resetHint histogram => { histogram with resetHint } },
    { name := "timestamp"
      form := .plain .int64 15 0 (· == 0)
      get := Histogram.timestamp
      set := fun timestamp histogram => { histogram with timestamp } },
    { name := "custom_values"
      form := .packed .double 16
      get := Histogram.customValues
      set := fun customValues histogram => { histogram with customValues } }]

end Histogram
end RemoteWrite
