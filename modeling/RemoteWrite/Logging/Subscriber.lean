import RemoteWrite.Logging.Config
import RemoteWrite.Logging.Filter

/-!
Contract: the log output of a process.

The first subscriber that is installed stays; later ones are ignored.

Owns:
- the layout of printed events;
- the filter that follows from a configuration, and the one that the
  environment gives instead;
- the subscriber for tests, which prints all events of one module tree;
- installing subscribers, and what an installed one prints.

Does not own: the exact text of a printed event.
-/

namespace RemoteWrite.Logging

inductive Layout where
  | line
  | pretty
  | json
deriving DecidableEq, Repr

structure Subscriber where
  layout : Layout
  ansi : Bool
  filter : Filter
deriving DecidableEq, Repr

/-- The targets of this library's own events. -/
def ownTargets : List String :=
  ["prw_client", "prw_log", "prw_protocol", "prw_server", "prw_test"]

/-- Others may report what matters, the HTTP libraries only what goes wrong,
and this library as much as is wanted. -/
def defaultFilter (level : Verbosity) : Filter :=
  .ofDirectives (
    .general (.upTo .info) :: .ofTarget "hyper" (.upTo .warn) ::
      .ofTarget "reqwest" (.upTo .warn) :: ownTargets.map (.ofTarget · level))

/-- The filter of the environment, if it is given and valid, otherwise the
default one. -/
def chosenFilter (environment : Option String) (level : Verbosity) : Filter :=
  match environment.bind Filter.parse? with
  | some filter => filter
  | none => defaultFilter level

namespace Subscriber

/-- The subscriber of a configuration when the output is no terminal. -/
def ofConfig (environment : Option String) (config : LogConfig) : Subscriber :=
  let filter := chosenFilter environment config.level
  match config.format with
  | .auto | .simplified => ⟨.line, false, filter⟩
  | .pretty => ⟨.pretty, true, filter⟩
  | .json => ⟨.json, false, filter⟩

/-- The first part of a module path. -/
def root : List Char → List Char
  | ':' :: ':' :: _ => []
  | [] => []
  | c :: rest => c :: root rest

/-- The subscriber for tests of a module: all events of its module tree. The
name of the tree is read as a directive. -/
def forTests (modulePath : String) : Subscriber where
  layout := .line
  ansi := true
  filter := .parseValid (String.ofList (root modulePath.toList) ++ "=trace")

end Subscriber

def install (installed : Option Subscriber) (subscriber : Subscriber) : Option Subscriber :=
  some (installed.getD subscriber)

structure Record where
  target : String
  level : Level
  message : String
deriving DecidableEq, Repr

def printed (installed : Option Subscriber) (records : List Record) : List Record :=
  match installed with
  | none => []
  | some subscriber =>
    records.filter fun record => subscriber.filter.allows record.target record.level

end RemoteWrite.Logging
