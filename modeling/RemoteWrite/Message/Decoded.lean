import RemoteWrite.Message.V1
import RemoteWrite.Message.V2
import RemoteWrite.Protocol

/-!
Contract: the request of a payload.

Owns:
- a request of either protocol;
- the decoding of an uncompressed payload by the schema of its protocol;
- the encoding of a request;
- the error of a payload that is no request of its protocol.

Does not own: compression, or what a request is counted as.
-/

namespace RemoteWrite

inductive DecodedRequest where
  | v1 (request : V1.WriteRequest)
  | v2 (request : V2.Request)
deriving DecidableEq, Repr

/-- A payload that is no request of the protocol it was sent as. -/
structure PayloadError where
  protocol : Protocol
  cause : Wire.DecodeError
deriving DecidableEq, Repr

def PayloadError.message (error : PayloadError) : String :=
  "failed to decode " ++ error.protocol.name ++ " payload"

namespace DecodedRequest

def protocol : DecodedRequest → Protocol
  | v1 _ => .v1
  | v2 _ => .v2

def decode (protocol : Protocol) (payload : Bytes) : Except PayloadError DecodedRequest :=
  match protocol with
  | .v1 =>
    match V1.WriteRequest.schema.decode payload with
    | .ok request => .ok (v1 request)
    | .error cause => .error ⟨.v1, cause⟩
  | .v2 =>
    match V2.Request.schema.decode payload with
    | .ok request => .ok (v2 request)
    | .error cause => .error ⟨.v2, cause⟩

def encode : DecodedRequest → Bytes
  | v1 request => V1.WriteRequest.schema.write request
  | v2 request => V2.Request.schema.write request

end DecodedRequest
end RemoteWrite
