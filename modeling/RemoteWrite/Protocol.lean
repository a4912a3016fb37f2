/-!
Contract: the catalog of remote-write protocols.

Owns:
- the two protocols and their fully qualified message names;
- membership of a name in the catalog;
- the canonical content type and the version announced with each protocol;
- the errors of identifying a protocol, with their text.

Does not own: the grammar of content types, which is in
`Protocol.ContentType`.
-/

namespace RemoteWrite

/-- A protocol, identified by the message carried in the request body. -/
inductive Protocol where
  /-- The 1.0 protocol, where every series spells out its labels. -/
  | v1
  /-- The 2.0 protocol, where series refer to a table of symbols. -/
  | v2
deriving DecidableEq, Repr

inductive ProtocolError where
  | unknownProtocol (name : String)
  /-- The content type does not start with the protobuf media type. -/
  | unexpectedMediaType (contentType : String)
  /-- A content type parameter is not one key and one value. -/
  | malformedParameter (parameter contentType : String)
deriving DecidableEq, Repr

namespace Protocol

def all : List Protocol := [v1, v2]

def name : Protocol → String
  | v1 => "prometheus.WriteRequest"
  | v2 => "io.prometheus.write.v2.Request"

def mediaType : String := "application/x-protobuf"

/-- The canonical content type. The 1.0 protocol uses the bare media type. -/
def contentType : Protocol → String
  | v1 => mediaType
  | v2 => "application/x-protobuf;proto=io.prometheus.write.v2.Request"

/-- The value of the version header sent along with a protocol. -/
def version : Protocol → String
  | v1 => "0.1.0"
  | v2 => "2.0.0"

def ofName (name : String) : Except ProtocolError Protocol :=
  match all.find? fun protocol => protocol.name = name with
  | some protocol => .ok protocol
  | none => .error (.unknownProtocol name)

def supportedNames : List String :=
  (all.map name).mergeSort fun left right => decide (left ≤ right)

end Protocol

def ProtocolError.message : ProtocolError → String
  | .unknownProtocol name =>
    "unknown remote write protobuf message " ++ name ++ ", supported: " ++
      ", ".intercalate Protocol.supportedNames
  | .unexpectedMediaType contentType =>
    "expected application/x-protobuf as the first (media) part, got " ++ contentType ++
      " content-type"
  | .malformedParameter parameter contentType =>
    "expected parameters to be key-values, got " ++ parameter ++ " in " ++ contentType ++
      " content-type"

/-- The header that announces the protocol version of a request. -/
def versionHeaderName : String := "x-prometheus-remote-write-version"

/-- The header that counts the retries of a request, from one. -/
def retryAttemptHeaderName : String := "retry-attempt"

end RemoteWrite
