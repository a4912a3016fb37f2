import RemoteWrite.Proofs.Wire.Locality

/-!
Contract: what decoding does with the parts of its input.

Decoding takes one record after the other. Behind complete records it goes on
as if the rest were decoded onto the message so far, and a record that is cut
off is an error, because a local step that accepted the front of the record
would accept it in front of the missing part as well.

Owns:
- decoding onto a message, and decoding as a chain of records;
- inputs that end inside a record;
- messages that only grow, decoded from concatenated inputs.

Does not own: which messages only grow.
-/

namespace RemoteWrite.Wire

/-- A local reader refuses bytes that lack a part of what it reads. -/
theorem IsLocal.refuses_front {ε α : Type} {read : Input → Except ε (α × Input)}
    (isLocal : IsLocal read) {front missing : Bytes} {value : α}
    (reads : Reads read (front ++ missing) value) (lacking : missing ≠ []) :
    ∃ error, read (.ofBytes front) = .error error := by
  rcases result : read (.ofBytes front) with error | ⟨other, rest⟩
  · exact ⟨error, rfl⟩
  · obtain ⟨used, _, split, readsUsed⟩ := isLocal result
    have whole := reads []
    rw [Input.ofBytes_bytes] at split
    rw [split, List.append_nil, List.append_assoc, readsUsed, Except.ok.injEq,
      Prod.mk.injEq] at whole
    have left : rest.bytes ++ missing = [] := congrArg Input.bytes whole.2
    exact absurd (List.append_eq_nil_iff.mp left).2 lacking

/-! ## Images of repetitions -/

/-- Steps that act on an image of the state as they act on the state are repeated in the same
way. -/
theorem repeatUntil_image {ε σ : Type} {step : σ → Input → Except ε (σ × Input)} (image : σ → σ)
    (steps : ∀ state input, step (image state) input = (step state input).map (Prod.map image id))
    (stop : Nat) (state : σ) (input : Input) :
    input.repeatUntil stop step (image state) =
      (input.repeatUntil stop step state).map (Prod.map image id) := by
  fun_induction Input.repeatUntil stop step state input with
  | case1 state input reached =>
      rw [Input.repeatUntil, if_pos reached]
      rfl
  | case2 state input goesOn error failed =>
      rw [Input.repeatUntil, if_neg goesOn, steps, failed]
      rfl
  | case3 state input goesOn middle rest read progress inductionHypothesis =>
      rw [Input.repeatUntil, if_neg goesOn, steps, read]
      simp only [Except.map, Prod.map, id_eq, progress, ↓reduceIte]
      exact inductionHypothesis
  | case4 state input goesOn middle rest read stuck =>
      rw [Input.repeatUntil, if_neg goesOn, steps, read]
      simp only [Except.map, Prod.map, id_eq, stuck, ↓reduceIte]

namespace Schema

variable {M : Type} {schema : Schema M}

/-! ## Decoding onto a message -/

/-- Merge all records of a byte string into a message. -/
def decodeOnto (schema : Schema M) (message : M) (bytes : Bytes) : Except DecodeError M :=
  match (Input.ofBytes bytes).repeatUntil 0 (schema.mergeNext recursionLimit) message with
  | .error error => .error error
  | .ok (merged, _) => .ok merged

theorem decode_eq_decodeOnto (bytes : Bytes) :
    schema.decode bytes = schema.decodeOnto schema.empty bytes := rfl

/-- Behind complete records, decoding goes on from the message so far. -/
theorem decodeOnto_append {state middle : M} {front : Bytes}
    (chain : Chain (Steps (schema.mergeNext recursionLimit)) state front middle) (rest : Bytes) :
    schema.decodeOnto state (front ++ rest) = schema.decodeOnto middle rest := by
  rw [decodeOnto, repeatUntil_chain chain rest (Nat.zero_le _)]
  rfl

/-- What decodes is a chain of records. -/
theorem IsLocal.chain_of_decodeOnto (isLocal : schema.IsLocal) {state message : M} {bytes : Bytes}
    (decoded : schema.decodeOnto state bytes = .ok message) :
    Chain (Steps (schema.mergeNext recursionLimit)) state bytes message := by
  unfold decodeOnto at decoded
  split at decoded
  · contradiction
  · rename_i merged rest repeated
    obtain ⟨front, split, chain, behind⟩ := chain_of_repeatUntil (isLocal recursionLimit) repeated
    have nothing : rest.bytes = [] := by
      rw [← List.length_eq_zero_iff, rest.size_eq]
      exact Nat.le_zero.mp behind
    rw [nothing, List.append_nil, Input.ofBytes_bytes] at split
    rw [split, ← Except.ok.inj decoded]
    exact chain

theorem decodeOnto_refused {message : M} {bytes : Bytes} (nonempty : bytes ≠ [])
    {error : DecodeError}
    (refused : schema.mergeNext recursionLimit message (.ofBytes bytes) = .error error) :
    schema.decodeOnto message bytes = .error error := by
  have goesOn : ¬ (Input.ofBytes bytes).size ≤ 0 := by
    rw [Input.ofBytes_size, Nat.le_zero]
    exact fun length => nonempty (List.length_eq_zero_iff.mp length)
  rw [decodeOnto, Input.repeatUntil, if_neg goesOn, refused]

/-! ## Inputs that end inside a record -/

/-- Records that are cut off anywhere but between two of them do not decode. -/
theorem IsLocal.decodeOnto_cut (isLocal : schema.IsLocal) {state final : M} {records : List Bytes}
    (run : Run (Steps (schema.mergeNext recursionLimit)) state records final) {length : Nat}
    (within : length ≤ records.flatten.length)
    (inside : ∀ count, length ≠ (records.take count).flatten.length) :
    ∃ error, schema.decodeOnto state (records.flatten.take length) = .error error := by
  induction run generalizing length with
  | done =>
      exact absurd (Nat.le_zero.mp within) (inside 0)
  | @next state middle final record records first _ inductionHypothesis =>
      rw [List.flatten_cons, List.length_append] at within
      by_cases complete : record.length ≤ length
      · -- The first record is complete, so the cut is in one of the others.
        have behindInside : ∀ count,
            length - record.length ≠ (records.take count).flatten.length := by
          intro count reached
          have shifted := inside (count + 1)
          rw [List.take_succ_cons, List.flatten_cons, List.length_append] at shifted
          omega
        have others := inductionHypothesis (Nat.sub_le_iff_le_add'.mpr within) behindInside
        rw [List.flatten_cons, List.take_append, List.take_of_length_le complete,
          decodeOnto_append (.single first)]
        exact others
      · have front : (record :: records).flatten.take length = record.take length := by
          rw [List.flatten_cons, List.take_append_of_le_length (by omega)]
        have whole : record.take length ++ record.drop length = record :=
          List.take_append_drop length record
        have nonempty : record.take length ≠ [] := by
          intro empty
          have size := congrArg List.length empty
          rw [List.length_take_of_le (by omega), List.length_nil] at size
          exact inside 0 size
        have lacking : record.drop length ≠ [] := by
          intro empty
          rw [List.drop_eq_nil_iff] at empty
          exact complete empty
        obtain ⟨error, refused⟩ :=
          (isLocal recursionLimit state).refuses_front (by rw [whole]; exact first.2) lacking
        exact ⟨error, by rw [front, decodeOnto_refused nonempty refused]⟩

end Schema

/-! ## Messages that only grow -/

/-- Records of the field are merged behind the values that it holds. -/
def FieldForm.Appends {α : Type} (form : FieldForm (List α)) : Prop :=
  ∀ budget key before values input, form.merge budget key (before ++ values) input =
    (form.merge budget key values input).map (Prod.map (before ++ ·) id)

theorem FieldForm.repeated_appends {α : Type} (scalar : Scalar α) (number : Nat) :
    (FieldForm.repeated scalar number).Appends := by
  intro budget key before values input
  simp only [FieldForm.repeated]
  rcases scalar.readAs key.wireType input with error | ⟨value, rest⟩
  · rfl
  · simp only [Except.map, Prod.map, id_eq, List.append_assoc]

theorem Schema.repeated_appends {M : Type} (schema : Schema M) (number : Nat) :
    (schema.repeated number).Appends := by
  intro budget key before messages input
  simp only [Schema.repeated]
  rcases schema.mergeNested budget key.wireType schema.empty input with error | ⟨message, rest⟩
  · rfl
  · simp only [Except.map, Prod.map, id_eq, List.append_assoc]

/-- Appending messages appends what the field holds, by `join`, and merging leaves the front
alone. -/
structure Field.Appends {M : Type} (field : Field M) (append : M → M → M)
    (join : field.Value → field.Value → field.Value) : Prop where
  get_append : ∀ first second, field.get (append first second) =
    join (field.get first) (field.get second)
  set_append : ∀ first second value, field.set (join (field.get first) value)
    (append first second) = append first (field.set value second)
  merge_join : ∀ budget key before value input,
    field.form.merge budget key (join before value) input =
      (field.form.merge budget key value input).map (Prod.map (join before) id)

namespace Schema

variable {M : Type} {schema : Schema M} {append : M → M → M}

theorem mergeNext_append
    (fields : ∀ field ∈ schema.fields, ∃ join, field.Appends append join) (budget : Nat)
    (first second : M) (input : Input) :
    schema.mergeNext budget (append first second) input =
      (schema.mergeNext budget second input).map (Prod.map (append first) id) := by
  unfold mergeNext
  rcases Key.read input with fault | ⟨key, rest⟩
  · rfl
  · simp only [mergeRecord]
    cases declared : schema.field? key.number with
    | none =>
        simp only
        rcases skipField budget key rest with fault | last
        · rfl
        · rfl
    | some field =>
        obtain ⟨join, appends⟩ := fields field (List.mem_of_find?_eq_some declared)
        simp only [appends.get_append, appends.merge_join]
        rcases field.form.merge budget key (field.get second) rest with error | ⟨value, last⟩
        · rfl
        · simp only [Except.map, Prod.map, id_eq, appends.set_append]

theorem decodeOnto_image (fields : ∀ field ∈ schema.fields, ∃ join, field.Appends append join)
    (first second : M) (bytes : Bytes) :
    schema.decodeOnto (append first second) bytes =
      (schema.decodeOnto second bytes).map (append first) := by
  unfold decodeOnto
  rw [repeatUntil_image (append first) (mergeNext_append fields recursionLimit first)]
  rcases (Input.ofBytes bytes).repeatUntil 0 (schema.mergeNext recursionLimit) second with
    error | ⟨message, rest⟩
  · rfl
  · rfl

/-- Concatenated inputs decode to appended messages. Only the second part can still fail, and it
fails as it does alone. -/
theorem IsLocal.decode_concat (isLocal : schema.IsLocal)
    (fields : ∀ field ∈ schema.fields, ∃ join, field.Appends append join)
    (append_empty : ∀ message, append message schema.empty = message) {front : Bytes} {message : M}
    (decoded : schema.decode front = .ok message) (rest : Bytes) :
    schema.decode (front ++ rest) = (schema.decode rest).map (append message) := by
  have chain := isLocal.chain_of_decodeOnto decoded
  rw [decode_eq_decodeOnto, decodeOnto_append chain, ← append_empty message,
    decodeOnto_image fields, append_empty]
  rfl

end Schema
end RemoteWrite.Wire
