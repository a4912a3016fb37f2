import RemoteWrite.Client.Network
import RemoteWrite.Compression
import RemoteWrite.Message.Decoded
import RemoteWrite.Protocol.ContentType
import RemoteWrite.Stats.Headers

/-!
Contract: a server that answers by a script.

Every request is kept and answered with the next response of the queue, and
when that is empty with the fallback. Without a fallback the server confirms
all of every request that it can read.

Owns:
- responses as a script gives them, and what of them arrives;
- reading a request as a receiver would;
- the server as a network.

Does not own: the receivers of this library.
-/

namespace RemoteWrite

/-- The request that an outgoing request carries, if it carries one. Without a
content type it is one of the oldest protocol. -/
def OutgoingRequest.decode? (request : OutgoingRequest) : Option DecodedRequest := do
  let contentType :=
    (request.headers.text? Http.contentTypeName).getD Protocol.v1.contentType
  let protocol ← (Protocol.ofContentType contentType).toOption
  let payload ← (Compression.snappy.decompress request.body).toOption
  (DecodedRequest.decode protocol payload).toOption

structure ScriptedResponse where
  status : Http.Status := .noContent
  headers : Http.Headers := .empty
  body : Bytes := []
deriving DecidableEq, Repr

namespace ScriptedResponse

def withHeader (response : ScriptedResponse) (name : String) (value : Bytes) :
    ScriptedResponse :=
  { response with headers := response.headers.insert (Http.canonicalName name) value }

def withStats (response : ScriptedResponse) (stats : WriteStats) : ScriptedResponse :=
  { response with headers := stats.toHeaders response.headers }

/-- Responses of two statuses arrive without a body. -/
def hasBody (response : ScriptedResponse) : Bool :=
  response.status ≠ .noContent && response.status ≠ .notModified

def reply (response : ScriptedResponse) : ServerReply where
  status := response.status
  headers := response.headers
  body := if response.hasBody then response.body else []

/-- The response that confirms all of a request, if it can be read. -/
def accepting (request : OutgoingRequest) : ScriptedResponse :=
  match request.decode? with
  | none => {}
  | some decoded => ScriptedResponse.withStats {} (.ofRequest decoded)

end ScriptedResponse

/-- A server with the rest of its script, and the requests it got, oldest
first. -/
structure ScriptedServer where
  queue : List ScriptedResponse := []
  fallback : Option ScriptedResponse := none
  received : List OutgoingRequest := []
deriving DecidableEq, Repr

namespace ScriptedServer

def push (server : ScriptedServer) (responses : List ScriptedResponse) : ScriptedServer :=
  { server with queue := server.queue ++ responses }

def respond (server : ScriptedServer) (request : OutgoingRequest) :
    ScriptedResponse × ScriptedServer :=
  let server := { server with received := server.received ++ [request] }
  match server.queue with
  | response :: queue => (response, { server with queue })
  | [] => (server.fallback.getD (.accepting request), server)

def network (now : Time.Duration := .zero) : Network ScriptedServer where
  exchange server request :=
    let (response, server) := server.respond request
    (.response response.reply, server)
  now _ := now

end ScriptedServer
end RemoteWrite
