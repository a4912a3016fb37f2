import RemoteWrite.Proofs.Stats.Headers
import RemoteWrite.Receiver.Handle

/-!
Contract: what the answer of a receiver says about a store.

Owns:
- the status, the stats, and the headers of an answer to a request that was
  stored;
- the answer to a request that never reached the storage;
- the store of a decoded request by a storage that leaves the stats to the
  adapter.

Does not own: which requests reach the storage.
-/

namespace RemoteWrite

/-! ## Reports -/

theorem WriteResponse.ofEdits_append (edits : List ResponseEdit) (last : ResponseEdit) :
    ofEdits (edits ++ [last]) = (ofEdits edits).edit last := by
  rw [ofEdits, List.foldl_append]
  rfl

namespace Receiver

theorem successStatus_isSuccess (chosen : Option Http.Status) :
    (successStatus chosen).isSuccess = true := by
  rw [successStatus]
  cases kept : chosen.filter Http.Status.isSuccess with
  | none => rfl
  | some status => exact (Option.filter_eq_some_iff.mp kept).2

/-- A store that does not fail is answered with a success. -/
theorem isSuccess_stored {result : StoreResult} (succeeds : result.failure = none) :
    (stored result).status.isSuccess = true := by
  rw [stored, succeeds]
  exact successStatus_isSuccess _

/-- A failed store is answered with the chosen status, and that may be a
success. -/
theorem isSuccess_stored_iff (result : StoreResult) :
    (stored result).status.isSuccess = true ↔
      result.failure = none ∨ ∃ status, result.response.status = some status ∧
        status.isSuccess = true := by
  cases failed : result.failure with
  | none => simp [isSuccess_stored failed]
  | some error =>
      have status : (stored result).status = failureStatus result.response.status := by
        rw [stored, failed]
        rfl
      rw [status, failureStatus]
      cases result.response.status with
      | none => simp [show Http.Status.internalServerError.isSuccess = false from rfl]
      | some chosen => simp

/-- However a store ends, its headers come before the stats, and both replace
what the answer has of its own. -/
theorem headers_stored (result : StoreResult) :
    ∃ own : Http.Headers, (stored result).headers =
      (result.response.stats.getD {}).toHeaders (own.extend result.response.headers) := by
  unfold stored
  cases result.failure with
  | none => exact ⟨_, rfl⟩
  | some error => exact ⟨_, rfl⟩

/-- The stats headers of an answer are those of the stats that the storage
left, whatever other headers it added. -/
theorem ofHeaders_stored (result : StoreResult) :
    WriteStats.ofHeaders (stored result).headers =
      .ok (result.response.stats.getD {}).confirm := by
  obtain ⟨own, headers⟩ := headers_stored result
  rw [headers]
  exact WriteStats.ofHeaders_toHeaders _ _

/-- Every stats header of an answer has one value, whatever the storage added. -/
theorem values_stored (result : StoreResult) (counter : Counter) :
    (stored result).headers.values counter.headerName =
      [(result.response.stats.getD {}).written counter] := by
  obtain ⟨own, headers⟩ := headers_stored result
  rw [headers]
  exact WriteStats.values_toHeaders _ _ counter

/-- Any other header that the storage added has the values that it gave it. -/
theorem values_stored_extra {result : StoreResult} {name : String}
    (other : ∀ counter : Counter, counter.headerName ≠ name)
    (added : result.response.headers.values name ≠ []) :
    (stored result).headers.values name = result.response.headers.values name := by
  obtain ⟨own, headers⟩ := headers_stored result
  rw [headers, WriteStats.values_toHeaders_other _ _ other, Http.Headers.values_extend,
    if_neg added]

/-- A rejection reports that nothing was written. -/
theorem values_rejected (rejection : Rejection) (counter : Counter) :
    (rejected rejection).headers.values counter.headerName = [WriteStats.written {} counter] :=
  WriteStats.values_toHeaders _ _ counter

theorem ofHeaders_rejected (rejection : Rejection) :
    WriteStats.ofHeaders (rejected rejection).headers = .ok (WriteStats.confirm {}) :=
  WriteStats.ofHeaders_toHeaders _ _

/-- A request that is admitted is stored, and the answer is about that. -/
theorem handle_of_accept {σ : Type} {receiver : Receiver σ} {incoming : IncomingRequest}
    {protocol : Protocol} {payload : Bytes} {events : List Logging.Event}
    (admits : receiver.accept incoming = (.ok (protocol, payload), events)) (state : σ) :
    (receiver.handle state incoming).response =
        stored (receiver.storage.store state protocol payload).1 ∧
      (receiver.handle state incoming).state =
        (receiver.storage.store state protocol payload).2 := by
  simp only [handle, admits, and_self]

/-- A request that is not admitted leaves the storage alone. -/
theorem handle_of_reject {σ : Type} {receiver : Receiver σ} {incoming : IncomingRequest}
    {rejection : Rejection} {events : List Logging.Event}
    (refuses : receiver.accept incoming = (.error rejection, events)) (state : σ) :
    (receiver.handle state incoming).response = rejected rejection ∧
      (receiver.handle state incoming).state = state := by
  simp only [handle, refuses, and_self]

end Receiver

/-! ## Decoded requests -/

namespace DecodedStorage

variable {σ : Type}

/-- The storage succeeds without reporting stats, whatever it is given. -/
def Quiet (storage : DecodedStorage σ) : Prop :=
  ∀ state request, (storage.store state request).1.failure = none ∧
    (storage.store state request).1.response.stats = none

theorem Quiet.recorded {storage : DecodedStorage σ} (quiet : storage.Quiet) :
    storage.recorded.Quiet :=
  fun state request => quiet state.1 request

/-- The adapter hands the decoded request over once and reports all of it. -/
theorem store_decoding {storage : DecodedStorage σ} (quiet : storage.Quiet) {protocol : Protocol}
    {payload : Bytes} {request : DecodedRequest}
    (decodes : DecodedRequest.decode protocol payload = .ok request) (state : σ) :
    ((storage.decoding.store state protocol payload).1.failure = none ∧
      (storage.decoding.store state protocol payload).1.response.stats =
        some (.ofRequest request)) ∧
      (storage.decoding.store state protocol payload).2 = (storage.store state request).2 := by
  obtain ⟨succeeds, silent⟩ := quiet state request
  have stored : storage.decoding.store state protocol payload =
      ({ (storage.store state request).1 with
          edits := (storage.store state request).1.edits ++ [.setStats (.ofRequest request)] },
        (storage.store state request).2) := by
    simp only [decoding, decodes, succeeds, silent]
  rw [stored]
  refine ⟨⟨succeeds, ?_⟩, rfl⟩
  rw [StoreResult.response, WriteResponse.ofEdits_append]
  rfl

end DecodedStorage
end RemoteWrite
