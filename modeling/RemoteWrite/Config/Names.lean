import RemoteWrite.Compression
import RemoteWrite.Config.Reader
import RemoteWrite.Protocol

/-!
Contract: protocols and compression schemes in documents, where they are given
by name.

Owns: their readers and their documents.

Does not own: the names themselves.
-/

namespace RemoteWrite

namespace Protocol

def reader : Config.Reader Protocol :=
  .named "a remote write protobuf message name" fun name => (ofName name).toOption

def toDocument (protocol : Protocol) : Document := .text protocol.name

end Protocol

namespace Compression

def reader : Config.Reader Compression :=
  .named "a compression scheme name" fun name => (ofName name).toOption

def toDocument (compression : Compression) : Document := .text compression.name

end Compression

end RemoteWrite
