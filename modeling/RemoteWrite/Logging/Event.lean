import RemoteWrite.Http.Status
import RemoteWrite.Logging.Level
import RemoteWrite.Protocol

/-!
Contract: what clients and receivers report to the log.

Owns: the events, with the level, the message, and the fields of each.

Does not own: the filter and the layout of the log output.
-/

namespace RemoteWrite.Logging

inductive Event where
  /-- A response had stats headers that are no counters. -/
  | invalidStatsHeaders
  /-- The body of an error response broke off. -/
  | unreadableErrorBody
  /-- A request failed and will be repeated. -/
  | retrying (attempt : Nat)
  /-- A request failed and may not be repeated once more. -/
  | retriesExhausted (retries : Nat)
  /-- A request was refused before it reached the storage. -/
  | requestRejected (status : Http.Status)
  /-- The storage failed, and the sender is to blame. -/
  | writeRejected (protocol : Protocol) (status : Http.Status)
  /-- The storage failed, and the receiver is to blame. -/
  | storeFailed (protocol : Protocol)
  /-- A compressed body could not be read. -/
  | decompressionFailed
deriving DecidableEq, Repr

namespace Event

def level : Event → Level
  | storeFailed _ => .error
  | invalidStatsHeaders | retrying _ => .warn
  | unreadableErrorBody | retriesExhausted _ | requestRejected _ | writeRejected _ _
  | decompressionFailed => .debug

def message : Event → String
  | invalidStatsHeaders => "failed to parse write stats, keeping partial stats"
  | unreadableErrorBody => "failed to read error response body"
  | retrying _ => "failed to send write request, retrying after backoff"
  | retriesExhausted _ => "retry budget exhausted"
  | requestRejected _ | writeRejected _ _ => "rejected write request"
  | storeFailed _ => "failed to store write request"
  | decompressionFailed => "failed to decompress request body"

/-- The fields of an event as text, apart from errors. -/
def fields : Event → List (String × String)
  | retrying attempt => [("attempt", Text.Numeral.render attempt)]
  | retriesExhausted retries => [("retries", Text.Numeral.render retries)]
  | requestRejected status => [("status", status.render)]
  | writeRejected protocol status => [("proto", protocol.name), ("status", status.render)]
  | storeFailed protocol => [("proto", protocol.name)]
  | invalidStatsHeaders | unreadableErrorBody | decompressionFailed => []

end Event
end RemoteWrite.Logging
