import RemoteWrite.Client.Write
import RemoteWrite.Proofs.Encoder.Capacity

/-!
Contract: what a client prepares and sends.

Owns:
- the payload of a message, from encoding and compression;
- the write of a prepared message as a run of its sender;
- writes of messages that there is no buffer for.

Does not own: the run.
-/

namespace RemoteWrite.Client

variable {σ : Type} {client : Client} {message : WriteMessage} {payload : Payload}

/-- A message is prepared by being encoded and compressed. -/
theorem prepare_of_compress {plain : Bytes} {compressed : Compression.Compressed}
    (encodes : (client.encoder.encode message).payload = .ok plain)
    (compresses : client.config.compression.compress plain client.buffer = .ok compressed) :
    (client.prepare message).1 = .ok ⟨message.protocol, compressed.bytes, message.baseline⟩ := by
  simp only [prepare, encodes, compresses]

/-- Nothing else leads to a payload. -/
theorem compress_of_prepare (prepared : (client.prepare message).1 = .ok payload) :
    ∃ plain compressed, (client.encoder.encode message).payload = .ok plain ∧
      client.config.compression.compress plain client.buffer = .ok compressed ∧
      payload = ⟨message.protocol, compressed.bytes, message.baseline⟩ := by
  cases encodes : (client.encoder.encode message).payload with
  | error cause =>
      simp only [prepare, encodes] at prepared
      cases prepared
  | ok plain =>
      cases compresses : client.config.compression.compress plain client.buffer with
      | error cause =>
          simp only [prepare, encodes, compresses] at prepared
          cases prepared
      | ok compressed =>
          rw [prepare_of_compress encodes compresses] at prepared
          cases prepared
          exact ⟨plain, compressed, rfl, compresses, rfl⟩

/-- A message that cannot be prepared fails to be encoded or compressed. -/
theorem error_of_prepare {error : WriteError}
    (unprepared : (client.prepare message).1 = .error error) :
    (∃ cause, error = .encode cause) ∨ ∃ cause, error = .compression cause := by
  cases encodes : (client.encoder.encode message).payload with
  | error cause =>
      simp only [prepare, encodes] at unprepared
      cases unprepared
      exact .inl ⟨cause, rfl⟩
  | ok plain =>
      cases compresses : client.config.compression.compress plain client.buffer with
      | error cause =>
          simp only [prepare, encodes, compresses] at unprepared
          cases unprepared
          exact .inr ⟨cause, rfl⟩
      | ok compressed =>
          rw [prepare_of_compress encodes compresses] at unprepared
          cases unprepared

/-- Preparing a message changes nothing but buffers. -/
theorem endpoint_prepare (client : Client) (message : WriteMessage) :
    (client.prepare message).2.url = client.url ∧
      (client.prepare message).2.config = client.config := by
  rw [prepare]
  cases (client.encoder.encode message).payload with
  | error cause => exact ⟨rfl, rfl⟩
  | ok plain =>
      cases compresses : client.config.compression.compress plain client.buffer with
      | error cause => simp only [compresses, and_self]
      | ok compressed => simp only [compresses, and_self]

def sender (client : Client) (network : Network σ) (payload : Payload)
    (cancel : Option CancelPoint) : Sender σ :=
  ⟨network, client.url, client.config, payload, cancel⟩

/-- A prepared message is sent to the endpoint of the client. -/
theorem write_of_prepare (network : Network σ)
    (prepared : (client.prepare message).1 = .ok payload) (cancel : Option CancelPoint)
    (state : σ) :
    (client.write network message cancel state).1 =
      (client.sender network payload cancel).send state := by
  obtain ⟨url, config⟩ := endpoint_prepare client message
  rw [write, sender, ← url, ← config]
  simp only [prepared]

/-- A message that cannot be prepared is not sent. -/
theorem write_of_prepare_error (network : Network σ) {error : WriteError}
    (unprepared : (client.prepare message).1 = .error error) (cancel : Option CancelPoint)
    (state : σ) :
    (client.write network message cancel state).1 =
      { ending := .failed ⟨{}, error⟩, state, elapsed := 0 } := by
  rw [write]
  simp only [unprepared]

/-- A write has a course unless its message overflows. -/
theorem write?_cases (client : Client) (network : Network σ) (message : WriteMessage)
    (cancel : Option CancelPoint) (state : σ) :
    (client.encoder.Overflows message ∧ client.write? network message cancel state = none) ∨
      ¬ client.encoder.Overflows message ∧
        client.write? network message cancel state =
          some (client.write network message cancel state) :=
  Buffer.outcome_cases (client.encoder.overflows_iff message) _

end RemoteWrite.Client
