import RemoteWrite.ErrorChain
import RemoteWrite.Http.Headers
import RemoteWrite.Http.Status
import RemoteWrite.Message.Decoded
import RemoteWrite.Stats

/-!
Contract: what stores requests, and what it tells about that.

A storage fills in a response while it works, and then succeeds or fails.
What it reported counts in either case.

Owns:
- the response that a storage fills in, and the ways of doing so;
- storages of payloads and of decoded requests;
- the adapter that decodes payloads for the latter;
- storages that keep a record of their calls.

Does not own: the HTTP response that is made of it.
-/

namespace RemoteWrite

/-- What a storage has reported so far. -/
structure WriteResponse where
  stats : Option WriteStats := none
  status : Option Http.Status := none
  headers : Http.Headers := .empty
deriving DecidableEq, Repr

inductive ResponseEdit where
  | setStats (stats : WriteStats)
  | addStats (stats : WriteStats)
  | setStatus (status : Http.Status)
  | appendHeader (name : String) (value : Bytes)
deriving DecidableEq, Repr

namespace WriteResponse

def edit (response : WriteResponse) : ResponseEdit → WriteResponse
  | .setStats stats => { response with stats := some stats }
  | .addStats stats => { response with stats := some ((response.stats.getD {}).add stats) }
  | .setStatus status => { response with status := some status }
  | .appendHeader name value =>
    { response with headers := response.headers.append (Http.canonicalName name) value }

def ofEdits (edits : List ResponseEdit) : WriteResponse :=
  edits.foldl edit {}

end WriteResponse

/-- What a storage reports, and how it fails, if it does. -/
structure StoreResult where
  edits : List ResponseEdit := []
  failure : Option ErrorChain := none
deriving DecidableEq, Repr

namespace StoreResult

def response (result : StoreResult) : WriteResponse := .ofEdits result.edits

end StoreResult

/-- A storage of uncompressed payloads, with a state of its own. -/
structure Storage (σ : Type) where
  store : σ → Protocol → Bytes → StoreResult × σ

structure DecodedStorage (σ : Type) where
  store : σ → DecodedRequest → StoreResult × σ

namespace PayloadError

def toChain (error : PayloadError) : ErrorChain :=
  ⟨error.message, [error.cause.message]⟩

end PayloadError

/-- Decode payloads for a storage. Payloads that are no requests never reach
it. If it succeeds without reporting stats, all of the request was written. -/
def DecodedStorage.decoding {σ : Type} (inner : DecodedStorage σ) : Storage σ where
  store state protocol payload :=
    match DecodedRequest.decode protocol payload with
    | .error error =>
      ({ edits := [.setStatus .badRequest], failure := some error.toChain }, state)
    | .ok request =>
      let (result, state) := inner.store state request
      match result.failure, result.response.stats with
      | none, none =>
        ({ result with edits := result.edits ++ [.setStats (.ofRequest request)] }, state)
      | _, _ => (result, state)

structure StoreCall where
  protocol : Protocol
  payload : Bytes
deriving DecidableEq, Repr

/-- Keep the calls, oldest first, beside the state. -/
def Storage.recorded {σ : Type} (storage : Storage σ) : Storage (σ × List StoreCall) where
  store state protocol payload :=
    let (result, inner) := storage.store state.1 protocol payload
    (result, inner, state.2 ++ [⟨protocol, payload⟩])

/-- Keep the requests, oldest first, beside the state. -/
def DecodedStorage.recorded {σ : Type} (storage : DecodedStorage σ) :
    DecodedStorage (σ × List DecodedRequest) where
  store state request :=
    let (result, inner) := storage.store state.1 request
    (result, inner, state.2 ++ [request])

/-- The next result of a script, of which the last one repeats. An empty
script accepts everything. -/
def nextScripted : List StoreResult → StoreResult × List StoreResult
  | [] => ({}, [])
  | [last] => (last, [last])
  | next :: rest => (next, rest)

def Storage.scripted : Storage (List StoreResult) where
  store script _ _ := nextScripted script

def DecodedStorage.scripted : DecodedStorage (List StoreResult) where
  store script _ := nextScripted script

end RemoteWrite
