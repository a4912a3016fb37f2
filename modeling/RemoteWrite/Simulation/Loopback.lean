import RemoteWrite.Client.Network
import RemoteWrite.Receiver.Handle

/-!
Contract: clients that write to a receiver of this library.

Owns:
- the request of a client as it arrives at a receiver, in one piece and with
  its length;
- the answer of a receiver as it arrives at a client;
- a receiver as a network.

Does not own: clients and receivers.
-/

namespace RemoteWrite

def OutgoingRequest.incoming (request : OutgoingRequest) : IncomingRequest where
  method := "POST"
  path := request.url.target
  headers :=
    request.headers.append Http.contentLengthName
      (Text.utf8 (Text.Numeral.render request.body.length))
  body := [.data request.body]

def ServerResponse.reply (response : ServerResponse) : ServerReply where
  status := response.status
  headers := response.headers
  body := if response.status = .noContent then [] else Text.utf8 response.body

/-- The receiver as a network. A connection on which no answer comes breaks
off. -/
def Receiver.network {σ : Type} (receiver : Receiver σ) (now : Time.Duration := .zero) :
    Network σ where
  exchange state request :=
    match receiver.handle? state request.incoming with
    | none => (.transportFailure, state)
    | some handled => (.response handled.response.reply, handled.state)
  now _ := now

end RemoteWrite
