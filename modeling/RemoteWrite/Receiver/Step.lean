import RemoteWrite.Compression
import RemoteWrite.Http.Headers
import RemoteWrite.Logging.Event
import RemoteWrite.Receiver.Config

/-!
Contract: the steps between a received body and the storage.

A step transforms the body, may change the request headers to say so, or
rejects the request. Steps run in order, each on the result of the one before.

Owns:
- rejections;
- steps and chains of steps;
- the step that decompresses;
- steps for other uses: changing the body, requiring or setting headers.

Does not own: what comes before and after the steps.
-/

namespace RemoteWrite

/-- Why a request is not served, told to the sender as plain text. -/
structure Rejection where
  status : Http.Status
  message : String
deriving DecidableEq, Repr

structure StepResult where
  headers : Http.Headers
  outcome : Except Rejection Bytes
  events : List Logging.Event := []

structure RequestStep where
  apply : Http.Headers → Bytes → StepResult

namespace RequestStep

/-- Run steps in order up to the first rejection. -/
def chain : List RequestStep → Http.Headers → Bytes → StepResult
  | [], headers, body => ⟨headers, .ok body, []⟩
  | step :: rest, headers, body =>
    let result := step.apply headers body
    match result.outcome with
    | .error _ => result
    | .ok body =>
      let others := chain rest result.headers body
      { others with events := result.events ++ others.events }

/-- A step that neither looks at the headers nor fails. -/
def mapBody (transform : Bytes → Bytes) : RequestStep :=
  ⟨fun headers body => ⟨headers, .ok (transform body), []⟩⟩

def reject (rejection : Rejection) : RequestStep :=
  ⟨fun headers _ => ⟨headers, .error rejection, []⟩⟩

def setHeader (name : String) (value : Bytes) : RequestStep :=
  ⟨fun headers body => ⟨headers.insert (Http.canonicalName name) value, .ok body, []⟩⟩

def forbidHeader (name : String) : RequestStep :=
  ⟨fun headers body =>
    if headers.contains (Http.canonicalName name) then
      ⟨headers, .error ⟨.badRequest, "header present"⟩, []⟩
    else ⟨headers, .ok body, []⟩⟩

/-- The encoding that a request announces; all senders compress, so a missing
or empty one stands for snappy. -/
def announcesSnappy (headers : Http.Headers) : Bool :=
  match headers.first? Http.contentEncodingName with
  | none => true
  | some encoding => encoding.isEmpty || encoding = Text.utf8 Compression.snappy.name

/-- Decompress the body after checking the announced length, and take the
encoding out of the headers. -/
def decompress (maxSize : Nat) (headers : Http.Headers) (body : Bytes) : StepResult :=
  if announcesSnappy headers then
    match Compression.snappy.announcedLength body with
    | .error error => ⟨headers, .error ⟨.badRequest, error.message⟩, []⟩
    | .ok length =>
      if maxSize < length then
        ⟨headers, .error ⟨.payloadTooLarge,
          "decompressed body of " ++ Text.Numeral.render length ++
            " bytes exceeds the limit of " ++ Text.Numeral.render maxSize ++ " bytes"⟩, []⟩
      else
        match Compression.snappy.decompress body with
        | .error error =>
          ⟨headers, .error ⟨.badRequest, error.message⟩, [.decompressionFailed]⟩
        | .ok plain => ⟨headers.remove Http.contentEncodingName, .ok plain, []⟩
  else
    let encoding := (headers.first? Http.contentEncodingName).getD []
    ⟨headers, .error ⟨.unsupportedMediaType,
      Text.lossy encoding ++ " encoding (compression) is not accepted by this server; " ++
        "only snappy is acceptable"⟩, []⟩

/-- The step that decompresses bodies of at most the given size. -/
def snappy (maxSize : Nat := ({} : ReceiverConfig).maxDecompressedSize) : RequestStep :=
  ⟨decompress maxSize⟩

end RequestStep
end RemoteWrite
