import RemoteWrite.Buffer
import RemoteWrite.Snappy.Compress
import RemoteWrite.Snappy.Decompress

/-!
Contract: compression schemes for request bodies.

Owns:
- the schemes and their names, as in the header that announces one;
- compression into a buffer that is kept;
- decompression, and the announced length;
- the errors of both.

Does not own: the block format, which is in `Snappy`.
-/

namespace RemoteWrite

inductive Compression where
  /-- Snappy blocks without framing. -/
  | snappy
deriving DecidableEq, Repr

inductive CompressionError where
  | unknownCompression (name : String)
  /-- Too much data to compress, or a block that cannot be read. -/
  | snappy
deriving DecidableEq, Repr

def CompressionError.message : CompressionError → String
  | .unknownCompression name => "unknown compression: " ++ name
  | .snappy => "snappy codec failed"

namespace Compression

def name : Compression → String
  | snappy => "snappy"

def ofName (name : String) : Except CompressionError Compression :=
  if name = snappy.name then .ok snappy else .error (.unknownCompression name)

/-- A finished compression: how much of the buffer it takes up, and the
buffer. -/
structure Compressed where
  size : Nat
  buffer : Bytes

/-- The compressed bytes are at the front of the buffer. -/
def Compressed.bytes (compressed : Compressed) : Bytes :=
  compressed.buffer.take compressed.size

/-- Compress data into a buffer, which grows to the worst case first. -/
def compress (compression : Compression) (data buffer : Bytes) :
    Except CompressionError Compressed :=
  match compression with
  | snappy =>
    match Snappy.compress? data with
    | none => .error .snappy
    | some block =>
      let buffer := Buffer.grow (Snappy.worstCase data.length) buffer
      .ok ⟨block.length, Buffer.overwrite block buffer⟩

/-- The length of the decompressed data as announced in front of it. -/
def announcedLength (compression : Compression) (data : Bytes) :
    Except CompressionError Nat :=
  match compression with
  | snappy =>
    match Snappy.announcedLength? data with
    | some length => .ok length
    | none => .error .snappy

def decompress (compression : Compression) (data : Bytes) : Except CompressionError Bytes :=
  match compression with
  | snappy =>
    match Snappy.decompress? data with
    | some plain => .ok plain
    | none => .error .snappy

def decompressNamed (name : String) (data : Bytes) : Except CompressionError Bytes :=
  match ofName name with
  | .error error => .error error
  | .ok compression => compression.decompress data

end Compression
end RemoteWrite
