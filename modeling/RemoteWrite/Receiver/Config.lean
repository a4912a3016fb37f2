import RemoteWrite.Config.Names

/-!
Contract: the configuration of receivers.

Owns: the limits on bodies, the accepted protocols, their defaults, and their
documents.

Does not own: what a receiver does with them.
-/

namespace RemoteWrite

open Config

structure ReceiverConfig where
  /-- The largest body as it is sent, in bytes. -/
  maxBodySize : Nat := 33554432
  /-- The largest body after decompression, in bytes. -/
  maxDecompressedSize : Nat := 268435456
  acceptedProtocols : List Protocol := Protocol.all
deriving DecidableEq, Repr

namespace ReceiverConfig

def accepts (config : ReceiverConfig) (protocol : Protocol) : Bool :=
  config.acceptedProtocols.contains protocol

def settings : List (Setting ReceiverConfig) := [
  .ofReader "max_body_size" Reader.size fun maxBodySize config => { config with maxBodySize },
  .ofReader "max_decompressed_size" Reader.size fun maxDecompressedSize config =>
    { config with maxDecompressedSize },
  .ofReader "accepted_protocols" (.list Protocol.reader) fun acceptedProtocols config =>
    { config with acceptedProtocols }]

def reader : Reader ReceiverConfig := .record "ReceiverConfig" settings {}

def toDocument (config : ReceiverConfig) : Document :=
  .ofEntries [
    ("max_body_size", .ofUInt64 (UInt64.ofNat config.maxBodySize)),
    ("max_decompressed_size", .ofUInt64 (UInt64.ofNat config.maxDecompressedSize)),
    ("accepted_protocols", .list (config.acceptedProtocols.map Protocol.toDocument))]

end ReceiverConfig
end RemoteWrite
