import RemoteWrite.Http.Headers
import RemoteWrite.Http.Status
import RemoteWrite.Time.Duration
import RemoteWrite.Url.Basic

/-!
Contract: what a client sees of the world.

Owns:
- the requests that a client makes and the replies that it gets;
- which requests HTTP can express;
- networks, which answer requests one after the other and tell the time;
- networks where no server can be reached.

Does not own: which requests a client sends, or any particular server.
-/

namespace RemoteWrite

structure OutgoingRequest where
  url : Url
  headers : Http.Headers
  body : Bytes
deriving DecidableEq, Repr

/-- A header value has no control characters but tabs. -/
def isHeaderValue (value : Bytes) : Bool :=
  value.all fun byte => byte = 0x09 || (0x20 ≤ byte && byte ≠ 0x7F)

/-- Only URLs of the protocol can be reached, with headers whose values are
header values. -/
def OutgoingRequest.isSendable (request : OutgoingRequest) : Bool :=
  (request.url.scheme = "http" || request.url.scheme = "https") &&
    request.headers.fields.all fun field => isHeaderValue field.2

/-- A response as far as it arrived. -/
structure ServerReply where
  status : Http.Status
  headers : Http.Headers
  body : Bytes
  /-- The body is all there is; otherwise it broke off. -/
  complete : Bool := true
deriving DecidableEq, Repr

inductive Reply where
  | transportFailure
  | response (reply : ServerReply)
deriving DecidableEq, Repr

/-- A world that answers requests. Its state may change with every one. -/
structure Network (σ : Type) where
  exchange : σ → OutgoingRequest → Reply × σ
  /-- The time since the start of 1970. -/
  now : σ → Time.Duration

namespace Network

/-- Make a request. One that cannot be sent never leaves the client and is
like one without a response. -/
def post {σ : Type} (network : Network σ) (state : σ) (request : OutgoingRequest) : Reply × σ :=
  if request.isSendable then network.exchange state request else (.transportFailure, state)

/-- A network where no connection is ever made, whoever serves there. -/
def unreachable {σ : Type} (now : Time.Duration := .zero) : Network σ where
  exchange state _ := (.transportFailure, state)
  now _ := now

end Network
end RemoteWrite
