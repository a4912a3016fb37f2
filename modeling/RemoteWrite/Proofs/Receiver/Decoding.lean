import RemoteWrite.Proofs.Receiver.Report
import RemoteWrite.Proofs.Stats.Payload

/-!
Contract: what a receiver reports whose storage takes decoded requests.

The stats of an answer have three sources: the storage, the request, or
neither. A storage that reports zero has reported, and one that fails has
written nothing unless it says so.

Owns:
- storages that leave the stats open, by their edits;
- the adapter's result for payloads that decode and for those that do not;
- the calls, the status, and the stats headers of a receiver over the adapter.

Does not own: which requests are admitted, or how stats are added up.
-/

namespace RemoteWrite

/-! ## Edits -/

/-- No edit sets or adds stats. -/
def ResponseEdit.Silent (edits : List ResponseEdit) : Prop :=
  ∀ edit ∈ edits, edit.set? = none ∧ edit.added? = none

namespace ResponseEdit

instance (edits : List ResponseEdit) : Decidable (Silent edits) :=
  inferInstanceAs (Decidable (∀ edit ∈ edits, edit.set? = none ∧ edit.added? = none))

theorem silent_append_iff {edits : List ResponseEdit} {last : ResponseEdit} :
    Silent (edits ++ [last]) ↔ Silent edits ∧ last.set? = none ∧ last.added? = none := by
  simp only [Silent, List.forall_mem_append, List.forall_mem_singleton]

/-- Stats are open exactly until an edit sets or adds some, even if they are
zero. -/
theorem stats_ofEdits_eq_none_iff (edits : List ResponseEdit) :
    (WriteResponse.ofEdits edits).stats = none ↔ Silent edits := by
  induction edits using List.reverseRecOn with
  | nil => exact ⟨fun _ => List.forall_mem_nil _, fun _ => rfl⟩
  | append_singleton edits last inductionHypothesis =>
      rw [WriteResponse.ofEdits_append, silent_append_iff]
      cases last with
      | setStats stats => simp [WriteResponse.edit, set?]
      | addStats stats => simp [WriteResponse.edit, set?, added?]
      | setStatus status => simpa [WriteResponse.edit, set?, added?] using inductionHypothesis
      | appendHeader name value =>
          simpa [WriteResponse.edit, set?, added?] using inductionHypothesis

end ResponseEdit

/-! ## Adapter -/

/-- A payload decodes to a request of its protocol. -/
theorem DecodedRequest.protocol_of_decode {protocol : Protocol} {payload : Bytes}
    {request : DecodedRequest} (decodes : decode protocol payload = .ok request) :
    request.protocol = protocol := by
  cases protocol with
  | v1 =>
      obtain ⟨message, _, rfl⟩ := decode_v1_eq_ok_iff.mp decodes
      rfl
  | v2 =>
      obtain ⟨message, _, rfl⟩ := decode_v2_eq_ok_iff.mp decodes
      rfl

/-- The stats of a request that was decoded are what it contains. -/
theorem DecodedRequest.toNat_read_of_decode {protocol : Protocol} {payload : Bytes}
    {request : DecodedRequest} (decodes : decode protocol payload = .ok request)
    (addressable : payload.length < 2 ^ 64) (counter : Counter) :
    (counter.read (.ofRequest request)).toNat = request.count counter := by
  have bound := Nat.lt_of_le_of_lt (count_le_length decodes counter) addressable
  rw [request.read_ofRequest, UInt64.toNat_ofNat', Nat.mod_eq_of_lt bound]

namespace DecodedStorage

variable {σ : Type} (storage : DecodedStorage σ) {protocol : Protocol} {payload : Bytes}

/-- A payload that does not decode fails as the fault of its sender, and the
storage is left alone. -/
theorem store_decoding_of_error {error : PayloadError}
    (fails : DecodedRequest.decode protocol payload = .error error) (state : σ) :
    storage.decoding.store state protocol payload =
      ({ edits := [.setStatus .badRequest], failure := some error.toChain }, state) := by
  simp only [decoding, fails]

variable {request : DecodedRequest} (state : σ)

/-- A payload that decodes is stored as its request. -/
theorem state_decoding (decodes : DecodedRequest.decode protocol payload = .ok request) :
    (storage.decoding.store state protocol payload).2 = (storage.store state request).2 := by
  simp only [decoding, decodes]
  split <;> rfl

/-- All of the request is reported if the storage succeeds and has left the
stats open. -/
theorem stats_decoding (decodes : DecodedRequest.decode protocol payload = .ok request) :
    (storage.decoding.store state protocol payload).1.response.stats =
      (storage.store state request).1.response.stats.or
        (if (storage.store state request).1.failure = none then some (.ofRequest request)
          else none) := by
  simp only [decoding, decodes]
  split
  next succeeds silent =>
    rw [silent, if_pos succeeds, StoreResult.response, WriteResponse.ofEdits_append]
    rfl
  next other =>
    cases reported : (storage.store state request).1.response.stats with
    | some stats => rw [Option.some_or]
    | none => rw [if_neg fun succeeds => other succeeds reported, Option.or_none]

theorem stats_decoding_of_success
    (decodes : DecodedRequest.decode protocol payload = .ok request)
    (silent : ResponseEdit.Silent (storage.store state request).1.edits)
    (succeeds : (storage.store state request).1.failure = none) :
    (storage.decoding.store state protocol payload).1.response.stats =
      some (.ofRequest request) := by
  rw [storage.stats_decoding state decodes, StoreResult.response,
    (ResponseEdit.stats_ofEdits_eq_none_iff _).mpr silent, if_pos succeeds, Option.none_or]

theorem stats_decoding_of_failure
    (decodes : DecodedRequest.decode protocol payload = .ok request)
    (silent : ResponseEdit.Silent (storage.store state request).1.edits)
    (fails : (storage.store state request).1.failure ≠ none) :
    (storage.decoding.store state protocol payload).1.response.stats = none := by
  rw [storage.stats_decoding state decodes, StoreResult.response,
    (ResponseEdit.stats_ofEdits_eq_none_iff _).mpr silent, if_neg fails, Option.none_or]

theorem stats_decoding_of_report
    (decodes : DecodedRequest.decode protocol payload = .ok request)
    (reports : ¬ ResponseEdit.Silent (storage.store state request).1.edits) :
    (storage.decoding.store state protocol payload).1.response.stats =
      (storage.store state request).1.response.stats := by
  rw [storage.stats_decoding state decodes]
  cases left : (storage.store state request).1.response.stats with
  | none => exact absurd ((ResponseEdit.stats_ofEdits_eq_none_iff _).mp left) reports
  | some stats => rw [Option.some_or]

end DecodedStorage

/-! ## Answers -/

/-- Every stats header of the response has one value, the digits of its
count. -/
def ServerResponse.Reports (response : ServerResponse) (count : Counter → Nat) : Prop :=
  ∀ counter : Counter, response.headers.values counter.headerName =
    [Text.utf8 (Text.Numeral.render (count counter))]

namespace Receiver

variable {σ : Type}

/-- An answer reports the stats that the store left, or zero where it left
none. -/
theorem reports_stored {result : StoreResult} {stats : WriteStats} {count : Counter → Nat}
    (left : result.response.stats.getD {} = stats)
    (counts : ∀ counter : Counter, (counter.read stats).toNat = count counter) :
    (stored result).Reports count := by
  intro counter
  rw [values_stored, left, WriteStats.written, counts]

/-- The status of a failed store is the one that was chosen. -/
theorem status_stored_of_failure {result : StoreResult} {error : ErrorChain}
    (fails : result.failure = some error) {status : Http.Status}
    (chosen : result.response.status = some status) : (stored result).status = status := by
  rw [stored, fails]
  show failureStatus result.response.status = status
  rw [chosen]
  rfl

/-- A receiver over the adapter, with any steps, for a request that is
admitted. The storage is called once if the payload decodes, with the request,
and not at all otherwise. A payload that does not decode is a bad request, of
which nothing was written. All of a request is reported if the storage
succeeds without setting or adding stats, nothing if it fails so, and what it
set and added in all other cases. There is no answer where there can be no
buffer for the body. -/
theorem reports_handle (storage : DecodedStorage σ) (config : ReceiverConfig)
    (steps : List RequestStep) (incoming : IncomingRequest) (state : σ)
    (calls : List DecodedRequest) {protocol : Protocol} {payload : Bytes}
    (admits : (Receiver.accept ⟨config, steps, storage.recorded.decoding⟩ incoming).1 =
      .ok (protocol, payload)) :
    match Receiver.handle? ⟨config, steps, storage.recorded.decoding⟩ (state, calls) incoming with
    | none => config.Overflows incoming
    | some handled =>
      match DecodedRequest.decode protocol payload with
      | .error _ =>
        handled.state = (state, calls) ∧ handled.response.status = .badRequest ∧
          handled.response.Reports fun _ => 0
      | .ok request =>
        let (result, next) := storage.store state request
        handled.state = (next, calls ++ [request]) ∧ request.protocol = protocol ∧
          (ResponseEdit.Silent result.edits → result.failure = none →
            payload.length < 2 ^ 64 → handled.response.Reports (request.count ·)) ∧
          (ResponseEdit.Silent result.edits → result.failure ≠ none →
            handled.response.Reports fun _ => 0) ∧
          (¬ ResponseEdit.Silent result.edits →
            handled.response.Reports fun counter => min Counter.limit
              (counter.lastSet result.edits + counter.addedSince result.edits)) := by
  rcases handle?_cases ⟨config, steps, storage.recorded.decoding⟩ (state, calls) incoming with
    ⟨overflows, unanswered⟩ | ⟨-, answered⟩
  · rw [unanswered]
    exact overflows
  rw [answered]
  obtain ⟨answers, leaves⟩ := handle_of_accept (Prod.ext admits rfl) (state, calls)
  cases decodes : DecodedRequest.decode protocol payload with
  | error error =>
      rw [storage.recorded.store_decoding_of_error decodes] at answers leaves
      refine ⟨leaves, ?_, ?_⟩
      · rw [answers]
        exact status_stored_of_failure rfl rfl
      · rw [answers]
        exact reports_stored rfl fun counter => congrArg UInt64.toNat (Counter.read_empty counter)
  | ok request =>
      have kept := storage.recorded.state_decoding (state, calls) decodes
      refine ⟨leaves.trans kept, DecodedRequest.protocol_of_decode decodes, ?_, ?_, ?_⟩
      · intro silent succeeds addressable
        have adapted :=
          storage.recorded.stats_decoding_of_success (state, calls) decodes silent succeeds
        rw [answers]
        refine reports_stored (congrArg (Option.getD · {}) adapted) fun counter => ?_
        exact DecodedRequest.toNat_read_of_decode decodes addressable counter
      · intro silent fails
        have adapted :=
          storage.recorded.stats_decoding_of_failure (state, calls) decodes silent fails
        rw [answers]
        exact reports_stored (congrArg (Option.getD · {}) adapted) fun counter =>
          congrArg UInt64.toNat (Counter.read_empty counter)
      · intro reported
        have adapted := storage.recorded.stats_decoding_of_report (state, calls) decodes reported
        rw [answers]
        exact reports_stored (congrArg (Option.getD · {}) adapted) fun counter =>
          WriteResponse.toNat_read_ofEdits counter _

/-- A storage that chooses a status and appends a header, and leaves the stats
open. The body comes in two chunks and has two series. -/
theorem reports_handle_open :
    let storage : DecodedStorage Nat := ⟨fun count _ =>
      ({ edits := [.setStatus .ok, .appendHeader "X-Node" (Text.utf8 "a")] }, count + 1)⟩
    let receiver : Receiver (Nat × List DecodedRequest) := ⟨{}, [], storage.recorded.decoding⟩
    let incoming : IncomingRequest :=
      ⟨"POST", "/write", .empty,
        [.data [0x0a, 0x02, 0x12, 0x00, 0x0a], .data [0x06, 0x12, 0x00, 0x12, 0x00, 0x22, 0x00]]⟩
    ∃ payload handled, (receiver.accept incoming).1 = .ok (.v1, payload) ∧
      receiver.handle? (4, []) incoming = some handled ∧
      handled.state = (5, [.v1 { timeseries :=
        [{ samples := [{}] }, { samples := [{}, {}], histograms := [{}] }] }]) ∧
      handled.response.Reports fun
        | .samples => 3
        | .histograms => 1
        | .exemplars => 0 := by
  intro storage receiver incoming
  let payload : Bytes := [0x0a, 0x02, 0x12, 0x00, 0x0a, 0x06, 0x12, 0x00, 0x12, 0x00, 0x22, 0x00]
  have admits : (receiver.accept incoming).1 = .ok (.v1, payload) := rfl
  have decodes : DecodedRequest.decode .v1 payload = .ok (.v1 { timeseries :=
      [{ samples := [{}] }, { samples := [{}, {}], histograms := [{}] }] }) := by decide +kernel
  have answered : receiver.overflows incoming = false := rfl
  have all := reports_handle storage {} [] incoming 4 [] admits
  have handles : receiver.handle? (4, []) incoming = some (receiver.handle (4, []) incoming) :=
    if_neg (answered ▸ Bool.false_ne_true)
  rw [handles] at all
  simp only [decodes] at all
  obtain ⟨stored, -, reports, -⟩ := all
  refine ⟨payload, _, admits, handles, stored, fun counter => ?_⟩
  rw [reports (by decide) rfl (by decide) counter]
  cases counter with
  | samples => rfl
  | histograms => rfl
  | exemplars => rfl

end Receiver
end RemoteWrite
