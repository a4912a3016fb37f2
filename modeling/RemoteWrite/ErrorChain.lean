/-!
Contract: errors with their causes.

Owns: a message with the messages of its causes, outermost first, and the text
of all of them.

Does not own: any particular error.
-/

namespace RemoteWrite

/-- An error message and those of its causes, outermost first. -/
structure ErrorChain where
  message : String
  causes : List String := []
deriving DecidableEq, Repr

namespace ErrorChain

/-- All messages, each cause on a line of its own. -/
def render (chain : ErrorChain) : String :=
  chain.message ++ String.join (chain.causes.map fun cause => "\n  caused by: " ++ cause)

end ErrorChain
end RemoteWrite
