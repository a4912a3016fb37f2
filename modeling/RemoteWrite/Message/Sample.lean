import RemoteWrite.Wire.Schema

/-!
Contract: float samples, which both protocols share.

Owns: the sample type and its schema.

Does not own: the series that hold samples.
-/

namespace RemoteWrite

/-- A float sample; the timestamp is in milliseconds since the epoch. -/
structure Sample where
  value : Binary64 := .zero
  timestamp : Int64 := 0
deriving DecidableEq, Repr

namespace Sample

open Wire

def schema : Schema Sample where
  name := "Sample"
  empty := {}
  fields := [
    { name := "value"
      form := .plain .double 1 .zero Binary64.isZero
      get := Sample.value
      set := fun value sample => { sample with value } },
    { name := "timestamp"
      form := .plain .int64 2 0 (· == 0)
      get := Sample.timestamp
      set := fun timestamp sample => { sample with timestamp } }]

end Sample
end RemoteWrite
