import RemoteWrite.Compression
import RemoteWrite.Http.Status
import RemoteWrite.Url.Error
import RemoteWrite.WriteMessage

/-!
Contract: why a write fails.

Owns:
- the errors of writes, with their text, status, and cause;
- failures, which keep what was written nevertheless;
- the excerpt of a response body that errors quote.

Does not own: which error a response leads to.
-/

namespace RemoteWrite

inductive WriteError where
  /-- The base URL or the path of the client is no URL. -/
  | invalidUrl (cause : Url.Error)
  | encode (cause : EncodeError)
  | compression (cause : CompressionError)
  | transport
  | serverError (status : Http.Status) (body : String)
  | rateLimited (body : String)
  | refused (status : Http.Status) (body : String)
  /-- A 2.0 request was acknowledged, but nothing shows that any of it was
  written. -/
  | logicalAcceptance (sent : Option WriteStats) (written : WriteStats)
  | cancelled
deriving DecidableEq, Repr

namespace WriteError

/-- Counters as they are listed in a sentence. -/
def listed (stats : WriteStats) : String :=
  Text.Numeral.render stats.samples.toNat ++ " samples, " ++
    Text.Numeral.render stats.histograms.toNat ++ " histograms and " ++
    Text.Numeral.render stats.exemplars.toNat ++ " exemplars"

def message : WriteError → String
  | invalidUrl _ => "invalid write url"
  | encode _ => "failed to encode write request"
  | compression _ => "failed to compress write request"
  | transport => "failed to send write request"
  | serverError status body => "server returned HTTP status " ++ status.render ++ ": " ++ body
  | rateLimited body => "rate limited by server: " ++ body
  | refused status body => "server returned HTTP status " ++ status.render ++ ": " ++ body
  | logicalAcceptance sent written =>
    let contents :=
      match sent with
      | none => ""
      | some sent => " with " ++ listed sent
    "sent 2.0 request" ++ contents ++ ", got 2xx, but response stats indicate " ++
      listed written ++ " were written; assuming the receiver only supports the 1.0 protocol"
  | cancelled => "write cancelled"

/-- The status of the response that caused the error. -/
def status? : WriteError → Option Http.Status
  | serverError status _ => some status
  | rateLimited _ => some .tooManyRequests
  | refused status _ => some status
  | _ => none

/-- The text of the cause, where it is an error of this library. -/
def source? : WriteError → Option String
  | invalidUrl cause => some cause.message
  | encode cause => some cause.message
  | compression cause => some cause.message
  | _ => none

end WriteError

/-- A failed write, with the stats of all its attempts. -/
structure WriteFailure where
  stats : WriteStats
  error : WriteError
deriving DecidableEq, Repr

/-- Errors quote no more of a body than this many bytes. -/
def maxErrorBody : Nat := 1024

def bodyExcerpt (body : Bytes) : String :=
  Text.lossy (body.take maxErrorBody)

end RemoteWrite
