import RemoteWrite.Client.Send
import RemoteWrite.Encoder
import RemoteWrite.Url.Join

/-!
Contract: clients and their writes.

A client encodes and compresses a message once, then sends it until it is
accepted. Its buffers are kept from one write to the next.

Owns: clients, their endpoint, the preparation of payloads, and messages that
stop the writer before that, as there is no buffer for them.

Does not own: the course of a write after that.
-/

namespace RemoteWrite

structure Client where
  url : Url
  config : ClientConfig
  encoder : Encoder := .new
  buffer : Bytes := []

namespace Client

/-- A client for the configured path, resolved against a base URL. -/
def new (baseUrl : String) (config : ClientConfig) : Except WriteError Client :=
  match Url.resolve baseUrl config.path with
  | .error cause => .error (.invalidUrl cause)
  | .ok url => .ok { url, config }

/-- Encode and compress a message that there is a buffer for into the buffers of
the client. -/
def prepare (client : Client) (message : WriteMessage) : Except WriteError Payload × Client :=
  let encoded := client.encoder.encode message
  let client := { client with encoder := encoded.encoder }
  match encoded.payload with
  | .error cause => (.error (.encode cause), client)
  | .ok plain =>
    match client.config.compression.compress plain client.buffer with
    | .error cause => (.error (.compression cause), client)
    | .ok compressed =>
      (.ok ⟨message.protocol, compressed.bytes, message.baseline⟩,
        { client with buffer := compressed.buffer })

/-- The course of a write where there is a buffer for the message (`write?`).
One that cannot be prepared is not sent, whether or not the write is
cancelled. -/
def write {σ : Type} (client : Client) (network : Network σ) (message : WriteMessage)
    (cancel : Option CancelPoint) (state : σ) : Course σ × Client :=
  let (payload, client) := client.prepare message
  match payload with
  | .error error => ({ ending := .failed ⟨{}, error⟩, state, elapsed := 0 }, client)
  | .ok payload =>
    (Sender.send ⟨network, client.url, client.config, payload, cancel⟩ state, client)

/-- Write a message if there can be a buffer for it. Otherwise the writer stops
before its first attempt. -/
def write? {σ : Type} (client : Client) (network : Network σ) (message : WriteMessage)
    (cancel : Option CancelPoint) (state : σ) : Option (Course σ × Client) :=
  if client.encoder.overflows message then none
  else some (client.write network message cancel state)

end Client
end RemoteWrite
