import Mathlib.Data.List.DropRight
import RemoteWrite.Proofs.Receiver.Checks

/-!
Contract: what an answer says about what a storage did, edit by edit.

A storage may set and add stats as often as it likes, and it may append any
headers, those of the stats included. The last stats that it set count, with
all that it added behind them.

Owns:
- the counters and the extra headers that a list of edits stands for;
- the headers of every answer, whether or not the storage was reached;
- when a request is acknowledged.

Does not own: which requests reach the storage, or which get an answer.
-/

namespace RemoteWrite

/-! ## Edits -/

namespace ResponseEdit

/-- The stats that an edit puts in place of all earlier ones. -/
def set? : ResponseEdit → Option WriteStats
  | setStats stats => some stats
  | _ => none

/-- The stats that an edit adds to the earlier ones. -/
def added? : ResponseEdit → Option WriteStats
  | addStats stats => some stats
  | _ => none

/-- The value that an edit appends under a name. -/
def appended? (name : String) : ResponseEdit → Option Bytes
  | appendHeader other value => if Http.canonicalName other = name then some value else none
  | _ => none

end ResponseEdit

namespace Counter

/-- The counter of the stats that were set last, or zero. -/
def lastSet (counter : Counter) (edits : List ResponseEdit) : Nat :=
  ((edits.filterMap ResponseEdit.set?).getLast?.map fun stats => (counter.read stats).toNat).getD 0

/-- What is added to the counter behind the last edit that sets stats. -/
def addedSince (counter : Counter) (edits : List ResponseEdit) : Nat :=
  (((edits.rtakeWhile fun edit => edit.set?.isNone).filterMap ResponseEdit.added?).map
    fun stats => (counter.read stats).toNat).sum

variable (counter : Counter) (edits : List ResponseEdit)

theorem lastSet_append (last : ResponseEdit) :
    counter.lastSet (edits ++ [last]) =
      (last.set?.map fun stats => (counter.read stats).toNat).getD (counter.lastSet edits) := by
  unfold lastSet
  rw [List.filterMap_append, List.getLast?_append]
  cases last <;> rfl

theorem addedSince_append (last : ResponseEdit) :
    counter.addedSince (edits ++ [last]) =
      if last.set?.isNone then
        counter.addedSince edits +
          (last.added?.map fun stats => (counter.read stats).toNat).getD 0
      else 0 := by
  unfold addedSince
  rw [List.rtakeWhile_concat]
  by_cases keeps : last.set?.isNone
  · rw [if_pos keeps, if_pos keeps, List.filterMap_append, List.map_append, List.sum_append]
    cases last <;> rfl
  · rw [if_neg keeps, if_neg keeps]
    rfl

end Counter

namespace WriteResponse

/-- The counters after some edits. Where the sum reached the limit on the way
does not show. -/
theorem toNat_read_ofEdits (counter : Counter) (edits : List ResponseEdit) :
    (counter.read ((ofEdits edits).stats.getD {})).toNat =
      min Counter.limit (counter.lastSet edits + counter.addedSince edits) := by
  induction edits using List.reverseRecOn with
  | nil => cases counter <;> rfl
  | append_singleton edits last inductionHypothesis =>
      rw [ofEdits_append, Counter.lastSet_append, Counter.addedSince_append]
      cases last with
      | setStats stats =>
          have bound := (counter.read stats).toNat_lt
          show (counter.read stats).toNat = min Counter.limit ((counter.read stats).toNat + 0)
          rw [Counter.limit]
          omega
      | addStats stats =>
          show _ = min Counter.limit (counter.lastSet edits +
            (counter.addedSince edits + (counter.read stats).toNat))
          rw [← Nat.add_assoc]
          exact Counter.toNat_read_add counter inductionHypothesis
      | setStatus status => exact inductionHypothesis
      | appendHeader name value => exact inductionHypothesis

/-- The extra headers after some edits hold what was appended, in order. -/
theorem values_ofEdits (name : String) (edits : List ResponseEdit) :
    (ofEdits edits).headers.values name = edits.filterMap (ResponseEdit.appended? name) := by
  induction edits using List.reverseRecOn with
  | nil => rfl
  | append_singleton edits last inductionHypothesis =>
      rw [ofEdits_append, List.filterMap_append, ← inductionHypothesis]
      cases last with
      | setStats stats => exact (List.append_nil _).symm
      | addStats stats => exact (List.append_nil _).symm
      | setStatus status => exact (List.append_nil _).symm
      | appendHeader other value =>
          have appended : [ResponseEdit.appendHeader other value].filterMap
              (ResponseEdit.appended? name) =
                if Http.canonicalName other = name then [value] else [] := by
            by_cases named : Http.canonicalName other = name <;>
              simp [ResponseEdit.appended?, named]
          rw [appended]
          exact Http.Headers.values_append _ _ _ _

end WriteResponse

/-! ## Answers -/

namespace Receiver

variable {σ : Type}

/-- Every answer has one value for each stats header. It is zero if the request
was rejected, and otherwise what the edits of the storage stand for, whether
or not the store failed and whatever headers the storage appended. All other
headers that it appended are there, with their values in order. There is no
answer where there can be no buffer for the body. -/
theorem headers_handle (receiver : Receiver σ) (state : σ) (incoming : IncomingRequest) :
    match receiver.handle? state incoming with
    | none => receiver.config.Overflows incoming
    | some handled =>
      let headers := handled.response.headers
      match (receiver.accept incoming).1 with
      | .error _ => ∀ counter : Counter,
          headers.values counter.headerName = [Text.utf8 (Text.Numeral.render 0)]
      | .ok (protocol, payload) =>
          let edits := (receiver.storage.store state protocol payload).1.edits
          (∀ counter : Counter, headers.values counter.headerName =
            [Text.utf8 (Text.Numeral.render
              (min Counter.limit (counter.lastSet edits + counter.addedSince edits)))]) ∧
          ∀ name : String, (∀ counter : Counter, counter.headerName ≠ name) →
            edits.filterMap (ResponseEdit.appended? name) ≠ [] →
              headers.values name = edits.filterMap (ResponseEdit.appended? name) := by
  rcases receiver.handle?_cases state incoming with ⟨overflows, unanswered⟩ | ⟨-, answered⟩
  · rw [unanswered]
    exact overflows
  rw [answered]
  cases outcome : receiver.accept incoming with
  | mk admitted events =>
      cases admitted with
      | error rejection =>
          intro counter
          show (receiver.handle state incoming).response.headers.values _ = _
          rw [(handle_of_reject outcome state).1, values_rejected, WriteStats.written,
            Counter.read_empty, UInt64.toNat_zero]
      | ok call =>
          obtain ⟨protocol, payload⟩ := call
          have reported : (receiver.handle state incoming).response.headers =
              (stored (receiver.storage.store state protocol payload).1).headers :=
            congrArg ServerResponse.headers (handle_of_accept outcome state).1
          refine ⟨fun counter => ?_, fun name other added => ?_⟩
          · rw [reported, values_stored, WriteStats.written, StoreResult.response,
              WriteResponse.toNat_read_ofEdits]
          · rw [← WriteResponse.values_ofEdits] at added ⊢
            rw [reported, values_stored_extra other added, StoreResult.response]

/-- A failed store with forged stats headers, stats that are set between others
that are added, and a counter beyond the limit. -/
theorem headers_handle_forged :
    let samples := Counter.samples.headerName
    let result : StoreResult :=
      { edits := [.appendHeader samples (Text.utf8 "7"), .addStats { histograms := 5 },
          .setStats { samples := 18446744073709551615, exemplars := 3 },
          .appendHeader "X-Node" (Text.utf8 "a"), .addStats { samples := 2, histograms := 1 },
          .appendHeader samples (Text.utf8 "8"), .appendHeader "x-node" (Text.utf8 "b")]
        failure := some ⟨"disk full", []⟩ }
    let receiver : Receiver Unit :=
      { config := {}, steps := [], storage := ⟨fun _ _ _ => (result, ())⟩ }
    let incoming : IncomingRequest := ⟨"POST", "/write", .empty, [.data [1], .data [2, 3]]⟩
    (receiver.accept incoming).1 = .ok (.v1, [1, 2, 3]) ∧
      ∃ handled, receiver.handle? () incoming = some handled ∧
        handled.response.headers.values samples = [Text.utf8 "18446744073709551615"] ∧
        handled.response.headers.values Counter.histograms.headerName = [Text.utf8 "1"] ∧
        handled.response.headers.values Counter.exemplars.headerName = [Text.utf8 "3"] ∧
        handled.response.headers.values "x-node" = [Text.utf8 "a", Text.utf8 "b"] := by
  intro samples result receiver incoming
  have admitted : (receiver.accept incoming).1 = .ok (.v1, [1, 2, 3]) := rfl
  have answered : receiver.handle? () incoming = some (receiver.handle () incoming) := rfl
  have all := receiver.headers_handle () incoming
  rw [answered, admitted] at all
  obtain ⟨counters, extras⟩ := all
  have extra : ∀ counter : Counter, counter.headerName ≠ "x-node" := by
    intro counter
    cases counter <;> decide
  have appended : result.edits.filterMap (ResponseEdit.appended? "x-node") =
      [Text.utf8 "a", Text.utf8 "b"] := by
    have node : Http.canonicalName "X-Node" = "x-node" ∧ Http.canonicalName "x-node" = "x-node" ∧
        Http.canonicalName samples ≠ "x-node" := by decide
    simp [result, List.filterMap_cons, ResponseEdit.appended?, node]
  have nonempty : result.edits.filterMap (ResponseEdit.appended? "x-node") ≠ [] := by
    rw [appended]
    exact List.cons_ne_nil _ _
  refine ⟨admitted, _, answered, ?_, ?_, ?_, ?_⟩
  · exact (counters .samples).trans (by with_unfolding_all decide)
  · exact (counters .histograms).trans (by with_unfolding_all decide)
  · exact (counters .exemplars).trans (by with_unfolding_all decide)
  · rw [← appended]
    exact extras "x-node" extra nonempty

/-! ## Acknowledgements -/

/-- A request that reaches the storage is acknowledged if the store succeeds,
and also if it fails with a success for its status. -/
theorem isSuccess_handle_iff {receiver : Receiver σ} {incoming : IncomingRequest}
    {protocol : Protocol} {payload : Bytes}
    (admits : (receiver.accept incoming).1 = .ok (protocol, payload)) (state : σ) :
    match receiver.handle? state incoming with
    | none => receiver.config.Overflows incoming
    | some handled =>
      let result := (receiver.storage.store state protocol payload).1
      handled.response.status.isSuccess = true ↔
        result.failure = none ∨ ∃ status, result.response.status = some status ∧
          status.isSuccess = true := by
  rcases receiver.handle?_cases state incoming with ⟨overflows, unanswered⟩ | ⟨-, answered⟩
  · rw [unanswered]
    exact overflows
  rw [answered]
  show (receiver.handle state incoming).response.status.isSuccess = true ↔ _
  rw [(handle_of_accept (Prod.ext admits rfl) state).1]
  exact isSuccess_stored_iff _

/-- A storage that fails without choosing a status is answered with no
success. -/
theorem isSuccess_handle_iff_unchosen :
    let receiver : Receiver Unit :=
      { config := {}, steps := []
        storage := ⟨fun _ _ _ => ({ failure := some ⟨"storage unavailable", []⟩ }, ())⟩ }
    let incoming : IncomingRequest := ⟨"POST", "/write", .empty, [.data [1, 0], .data [7]]⟩
    (receiver.accept incoming).1 = .ok (.v1, [1, 0, 7]) ∧
      ∃ handled, receiver.handle? () incoming = some handled ∧
        ¬ handled.response.status.isSuccess = true := by
  intro receiver incoming
  have admits : (receiver.accept incoming).1 = .ok (.v1, [1, 0, 7]) := rfl
  have answered : receiver.handle? () incoming = some (receiver.handle () incoming) := rfl
  have all := isSuccess_handle_iff admits ()
  rw [answered] at all
  refine ⟨admits, _, answered, fun success => ?_⟩
  rcases all.mp success with succeeds | ⟨status, chosen, -⟩
  · cases succeeds
  · cases chosen

/-- A storage that chooses a success and then fails is answered with it, so the
sender takes for stored what is not. -/
theorem isSuccess_handle_failed :
    let receiver : Receiver Unit :=
      .new ⟨fun _ _ _ =>
        ({ edits := [.setStatus .ok], failure := some ⟨"storage unavailable", []⟩ }, ())⟩
    let incoming : IncomingRequest := ⟨"POST", "/write", .empty, [.data [1, 0, 7]]⟩
    (receiver.accept incoming).1 = .ok (.v1, [7]) ∧
      (receiver.storage.store () .v1 [7]).1.failure ≠ none ∧
      ∃ handled, receiver.handle? () incoming = some handled ∧
        handled.response.status.isSuccess = true := by
  intro receiver incoming
  have admits : (receiver.accept incoming).1 = .ok (.v1, [7]) := by with_unfolding_all rfl
  have answered : receiver.handle? () incoming = some (receiver.handle () incoming) := rfl
  refine ⟨admits, nofun, _, answered, ?_⟩
  rw [(handle_of_accept (Prod.ext admits rfl) ()).1]
  exact (isSuccess_stored_iff _).mpr (.inr ⟨.ok, rfl, rfl⟩)

end Receiver
end RemoteWrite
