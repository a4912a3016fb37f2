/-!
Contract: the types of metrics.

Owns: the known types, the numbers they are written as, and their names.

Does not own: the name of a type that is not given, which differs between the
protocols.
-/

namespace RemoteWrite

inductive MetricType where
  | counter
  | gauge
  | histogram
  | gaugeHistogram
  | summary
  | info
  | stateset
deriving DecidableEq, Repr

namespace MetricType

def number : MetricType → Int32
  | counter => 1
  | gauge => 2
  | histogram => 3
  | gaugeHistogram => 4
  | summary => 5
  | info => 6
  | stateset => 7

def name : MetricType → String
  | counter => "Counter"
  | gauge => "Gauge"
  | histogram => "Histogram"
  | gaugeHistogram => "GaugeHistogram"
  | summary => "Summary"
  | info => "Info"
  | stateset => "Stateset"

def all : List MetricType :=
  [counter, gauge, histogram, gaugeHistogram, summary, info, stateset]

def ofNumber? (number : Int32) : Option MetricType :=
  all.find? fun type => type.number == number

/-- The name of the type of a number, or the given name for numbers without a
known type. -/
def nameOfNumber (unspecified : String) (number : Int32) : String :=
  match ofNumber? number with
  | some type => type.name
  | none => unspecified

end MetricType
end RemoteWrite
