/-!
Contract: the levels of log events and how much of them is wanted.

Owns: the levels and their order, the verbosity that admits all levels up to
one, and the names of both.

Does not own: which verbosity applies to an event.
-/

namespace RemoteWrite.Logging

inductive Level where
  | error
  | warn
  | info
  | debug
  | trace
deriving DecidableEq, Repr

namespace Level

def all : List Level := [error, warn, info, debug, trace]

/-- The place of a level, from one for the most important. -/
def rank : Level → Nat
  | error => 1
  | warn => 2
  | info => 3
  | debug => 4
  | trace => 5

def name : Level → String
  | error => "error"
  | warn => "warn"
  | info => "info"
  | debug => "debug"
  | trace => "trace"

def label : Level → String
  | error => "ERROR"
  | warn => "WARN"
  | info => "INFO"
  | debug => "DEBUG"
  | trace => "TRACE"

end Level

inductive Verbosity where
  | off
  | upTo (level : Level)
deriving DecidableEq, Repr

namespace Verbosity

def all : List Verbosity := off :: Level.all.map upTo

def rank : Verbosity → Nat
  | off => 0
  | upTo level => level.rank

def allows (verbosity : Verbosity) (level : Level) : Bool :=
  level.rank ≤ verbosity.rank

def name : Verbosity → String
  | off => "off"
  | upTo level => level.name

end Verbosity
end RemoteWrite.Logging
