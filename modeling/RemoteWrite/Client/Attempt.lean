import RemoteWrite.Client.Config
import RemoteWrite.Client.Error
import RemoteWrite.Client.Network
import RemoteWrite.Client.RetryAfter
import RemoteWrite.Logging.Event
import RemoteWrite.Stats.Headers

/-!
Contract: a single attempt at a write.

Owns:
- the request of an attempt, which is the same each time but for the count of
  retries;
- what a reply means: success, a reason to retry, or the end;
- the stats that a reply reports, whatever it means otherwise.

Does not own: the repetition of attempts, or the order of their events.
-/

namespace RemoteWrite

structure Payload where
  protocol : Protocol
  body : Bytes
  baseline : Option WriteStats
deriving DecidableEq, Repr

/-- What an attempt means for the write. -/
inductive Verdict where
  | success
  | retry (error : WriteError) (hint : Time.Duration)
  | fatal (error : WriteError)

structure Attempt where
  stats : WriteStats
  verdict : Verdict
  events : List Logging.Event

namespace Attempt

/-- The headers of an attempt, which counts from zero. Only retries say which
one they are. -/
def requestHeaders (config : ClientConfig) (payload : Payload) (attempt : Nat) :
    Http.Headers :=
  let fixed : List (String × Bytes) := [
    (Http.contentEncodingName, Text.utf8 config.compression.name),
    (Http.contentTypeName, Text.utf8 payload.protocol.contentType),
    (versionHeaderName, Text.utf8 payload.protocol.version),
    (Http.userAgentName, Text.utf8 config.userAgent)]
  if attempt = 0 then .ofList fixed
  else
    .ofList (fixed ++ [(retryAttemptHeaderName, Text.utf8 (Text.Numeral.render attempt))])

def request (url : Url) (config : ClientConfig) (payload : Payload) (attempt : Nat) :
    OutgoingRequest :=
  ⟨url, requestHeaders config payload attempt, payload.body⟩

/-- The stats of a response, as far as they are valid. -/
def reportedStats (headers : Http.Headers) : WriteStats × List Logging.Event :=
  match WriteStats.ofHeaders headers with
  | .ok stats => (stats, [])
  | .error error => (error.stats, [.invalidStatsHeaders])

def hint (now : Time.Duration) (headers : Http.Headers) : Time.Duration :=
  match headers.text? Http.retryAfterName with
  | none => .zero
  | some text => RetryAfter.delay now text

/-- The report of a body that broke off before as much of it had arrived as
an error quotes. -/
def bodyEvents (reply : ServerReply) : List Logging.Event :=
  if reply.complete || maxErrorBody ≤ reply.body.length then [] else [.unreadableErrorBody]

/-- What a response means that is no success. -/
def failureVerdict (config : ClientConfig) (now : Time.Duration) (reply : ServerReply) :
    Verdict :=
  let body := bodyExcerpt reply.body
  let hint := hint now reply.headers
  if reply.status.isServerError then .retry (.serverError reply.status body) hint
  else if reply.status = .tooManyRequests then
    if config.retryOnRateLimit then .retry (.rateLimited body) hint
    else .fatal (.rateLimited body)
  else .fatal (.refused reply.status body)

def ofReply (config : ClientConfig) (now : Time.Duration) : Reply → Attempt
  | .transportFailure => ⟨{}, .retry .transport .zero, []⟩
  | .response reply =>
    let (stats, events) := reportedStats reply.headers
    if reply.status.isSuccess then ⟨stats, .success, events⟩
    else ⟨stats, failureVerdict config now reply, events ++ bodyEvents reply⟩

/-- A 2.0 write must be confirmed: by stats in the last response, by data
reported in any response, or by being known to be empty. -/
def checkAcceptance (payload : Payload) (stats : WriteStats) : Except WriteFailure WriteStats :=
  if payload.protocol ≠ .v2 || stats.confirmed || !stats.noDataWritten then .ok stats
  else if payload.baseline.any WriteStats.noDataWritten then .ok stats
  else .error ⟨stats, .logicalAcceptance payload.baseline stats⟩

end Attempt
end RemoteWrite
