import RemoteWrite.Logging.Directive

/-!
Contract: which log events are printed.

A filter is a set of directives. A directive gives the verbosity of the events
whose target starts with its own target, or of all events if it has none. Of
the directives that cover an event, the most specific one decides. Without one
the event is not printed.

Owns:
- filters, and reading them from text, with and without tolerance for mistakes;
- the decision about an event.

Does not own: where the text comes from.
-/

namespace RemoteWrite.Logging

/-- A set of directives about events, with at most one for each target and
each choice of fields. -/
structure Filter where
  directives : List Directive
deriving DecidableEq, Repr

namespace Filter

/-- Add a directive in place of the one for the same events. -/
def insert (filter : Filter) (directive : Directive) : Filter :=
  let others := filter.directives.filter fun other =>
    other.target ≠ directive.target || other.fields ≠ directive.fields
  ⟨others ++ [directive]⟩

/-- The filter of directives, of which only those about events count. -/
def ofDirectives (directives : List Directive) : Filter :=
  (directives.filter Directive.concernsEvents).foldl insert ⟨[]⟩

/-- The directive that decides about events of a target. -/
def deciding? (filter : Filter) (target : String) : Option Directive :=
  (filter.directives.filter fun directive => directive.covers target).foldl
    (fun best directive =>
      match best with
      | none => some directive
      | some other => if directive.exceeds other then some directive else best)
    none

def allows (filter : Filter) (target : String) (level : Level) : Bool :=
  match filter.deciding? target with
  | none => false
  | some directive => directive.verbosity.allows level

/-- The texts of directives in a list with commas between them. -/
def pieces (text : String) : List (List Char) :=
  (Text.pieces ',' text.toList).filter fun piece => !piece.isEmpty

def parse? (text : String) : Option Filter :=
  ((pieces text).mapM Directive.parse?).map ofDirectives

/-- Read a list of directives, and leave out those that are not valid. If none
is left, errors are printed. -/
def parseValid (text : String) : Filter :=
  match (pieces text).filterMap Directive.parse? with
  | [] => ofDirectives [.general (.upTo .error)]
  | directives => ofDirectives directives

end Filter
end RemoteWrite.Logging
