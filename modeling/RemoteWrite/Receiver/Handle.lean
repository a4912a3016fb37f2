import RemoteWrite.Buffer
import RemoteWrite.Protocol.ContentType
import RemoteWrite.Receiver.Step
import RemoteWrite.Receiver.Storage
import RemoteWrite.Stats.Headers

/-!
Contract: how a write request is answered.

The content type tells the protocol, the body is read up to a limit, the steps
turn it into a payload, and the storage gets the payload. Every answer carries
stats headers, also when nothing was written.

Owns:
- requests and responses as a receiver sees them;
- the check of the protocol and the reading of the body, with their
  rejections;
- the status, headers, and body of the answer;
- requests that get no answer, as there is no buffer for their body.

Does not own: the steps, the storage, or which requests get here. Memory for
buffers that there can be is taken to suffice.
-/

namespace RemoteWrite

inductive BodyChunk where
  | data (bytes : Bytes)
  | failure (message : String)
deriving DecidableEq, Repr

structure IncomingRequest where
  method : String
  path : String
  headers : Http.Headers
  body : List BodyChunk
deriving DecidableEq, Repr

structure ServerResponse where
  status : Http.Status
  headers : Http.Headers
  body : String
deriving DecidableEq, Repr

/-- A receiver: its limits, its steps, and its storage. -/
structure Receiver (σ : Type) where
  config : ReceiverConfig
  steps : List RequestStep
  storage : Storage σ

/-- An answer with what it leaves behind. -/
structure Handled (σ : Type) where
  response : ServerResponse
  state : σ
  events : List Logging.Event

namespace Receiver

/-- A receiver whose only step decompresses. -/
def new {σ : Type} (storage : Storage σ) (config : ReceiverConfig := {}) : Receiver σ where
  config := config
  steps := [.snappy config.maxDecompressedSize]
  storage := storage

/-- The protocol that the request headers announce. Without a content type it
is the one that needs none. -/
def announcedProtocol (headers : Http.Headers) : Except Rejection Protocol :=
  match headers.first? Http.contentTypeName with
  | none | some [] => .ok .v1
  | some value =>
    match Text.visible? value with
    | none => .error ⟨.unsupportedMediaType, "content-type is not valid ascii"⟩
    | some text =>
      match Protocol.ofContentType text with
      | .error error => .error ⟨.unsupportedMediaType, error.message⟩
      | .ok protocol => .ok protocol

/-- The announced protocol, if it is accepted. -/
def negotiate (config : ReceiverConfig) (headers : Http.Headers) : Except Rejection Protocol :=
  match announcedProtocol headers with
  | .error rejection => .error rejection
  | .ok protocol =>
    if config.accepts protocol then .ok protocol
    else .error ⟨.unsupportedMediaType, protocol.name ++ " is not accepted by this server"⟩

def tooLarge (limit : Nat) : Rejection :=
  ⟨.payloadTooLarge,
    "request body exceeds the limit of " ++ Text.Numeral.render limit ++ " bytes"⟩

/-- Collect the chunks of a body after `size` bytes have arrived. -/
def readChunks (limit : Nat) : (size : Nat) → List BodyChunk → Except Rejection (List Bytes)
  | _, [] => .ok []
  | _, .failure message :: _ =>
    .error ⟨.badRequest, "failed to read request body: " ++ message⟩
  | size, .data bytes :: rest =>
    let size := size + bytes.length
    if limit < size then .error (tooLarge limit)
    else (readChunks limit size rest).map (bytes :: ·)

/-- The announced length of the body, if there is a readable one. -/
def contentLength? (headers : Http.Headers) : Option Nat :=
  (headers.text? Http.contentLengthName).bind fun text =>
    Text.Numeral.parse? (2 ^ 64) text.toList

/-- Read the body, unless it is or announces to be beyond the limit. -/
def readBody (limit : Nat) (headers : Http.Headers) (body : List BodyChunk) :
    Except Rejection Bytes :=
  if (contentLength? headers).any (limit < ·) then .error (tooLarge limit)
  else (readChunks limit 0 body).map List.flatten

def textResponse (status : Http.Status) (body : String) : ServerResponse where
  status := status
  headers := .ofList [(Http.contentTypeName, Text.utf8 "text/plain; charset=utf-8")]
  body := body

/-- The answer to a request that did not reach the storage. Nothing was
written, which is reported like any other outcome. -/
def rejected (rejection : Rejection) : ServerResponse :=
  let response := textResponse rejection.status rejection.message
  { response with headers := WriteStats.toHeaders {} response.headers }

/-- The status of a successful store: the chosen one, if it is a success. -/
def successStatus (chosen : Option Http.Status) : Http.Status :=
  (chosen.filter Http.Status.isSuccess).getD .noContent

/-- The status of a failed store: the chosen one, whatever it is. -/
def failureStatus (chosen : Option Http.Status) : Http.Status :=
  chosen.getD .internalServerError

/-- The report of a failed store. Statuses from 500 to 504 are the receiver's
own fault. -/
def failureEvent (protocol : Protocol) (status : Http.Status) : Logging.Event :=
  if status.code / 5 = 100 then .storeFailed protocol else .writeRejected protocol status

/-- Add what the storage reported to a response: its headers first, then the
stats, which replace headers of their names. -/
def complete (reported : WriteResponse) (response : ServerResponse) : ServerResponse :=
  { response with
    headers := (reported.stats.getD {}).toHeaders (response.headers.extend reported.headers) }

/-- The answer to a request that reached the storage. -/
def stored (result : StoreResult) : ServerResponse :=
  let reported := result.response
  match result.failure with
  | none => complete reported ⟨successStatus reported.status, .empty, ""⟩
  | some error => complete reported (textResponse (failureStatus reported.status) error.render)

/-- The reports of a finished store. -/
def storeEvents (protocol : Protocol) (result : StoreResult) : List Logging.Event :=
  match result.failure with
  | none => []
  | some _ => [failureEvent protocol (failureStatus result.response.status)]

/-- The payload of a request with its protocol, or why there is none, and the
reports of the steps. -/
def accept {σ : Type} (receiver : Receiver σ) (request : IncomingRequest) :
    Except Rejection (Protocol × Bytes) × List Logging.Event :=
  match negotiate receiver.config request.headers with
  | .error rejection => (.error rejection, [])
  | .ok protocol =>
    match readBody receiver.config.maxBodySize request.headers request.body with
    | .error rejection => (.error rejection, [])
    | .ok body =>
      let result := RequestStep.chain receiver.steps request.headers body
      (result.outcome.map fun payload => (protocol, payload), result.events)

/-- The answer to a request, and what it leaves behind, where there is a buffer
for the body (`handle?`). -/
def handle {σ : Type} (receiver : Receiver σ) (state : σ) (request : IncomingRequest) :
    Handled σ :=
  let (admitted, events) := receiver.accept request
  match admitted with
  | .error rejection =>
    ⟨rejected rejection, state, events ++ [.requestRejected rejection.status]⟩
  | .ok (protocol, payload) =>
    let (result, state) := receiver.storage.store state protocol payload
    ⟨stored result, state, events ++ storeEvents protocol result⟩

/-! ## Buffers -/

/-- The buffer for the body has room for the announced length from the start,
and there is none so large. -/
def overflows {σ : Type} (receiver : Receiver σ) (request : IncomingRequest) : Bool :=
  match negotiate receiver.config request.headers with
  | .error _ => false
  | .ok _ =>
    (contentLength? request.headers).any fun length =>
      Buffer.maxCapacity < length && length ≤ receiver.config.maxBodySize

/-- Handle a request if there can be a buffer for its body. Otherwise there is
no answer, and the storage is left alone. -/
def handle? {σ : Type} (receiver : Receiver σ) (state : σ) (request : IncomingRequest) :
    Option (Handled σ) :=
  if receiver.overflows request then none else some (receiver.handle state request)

end Receiver
end RemoteWrite
