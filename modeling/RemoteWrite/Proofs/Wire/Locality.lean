import RemoteWrite.Proofs.Wire.Schema
import RemoteWrite.Proofs.Wire.Skipping

/-!
Contract: a decoder reads what it accepts the same way whatever follows it.

Lengths are compared with all of the remaining input, so bytes that follow a
value are seen before the value is read. They never change what is read: a
reader that accepts a value has used up a front part of its input, and it reads
the same value from this part in front of any other bytes.

Owns:
- local readers, and repetition of local steps as a chain of records;
- the locality of varints, keys, skipped fields, scalars, and field forms;
- the locality of a schema, from that of its fields.

Does not own: the schemas of particular messages.
-/

namespace RemoteWrite.Wire

/-! ## Taking bytes -/

namespace Input

theorem bytes_of_next?_eq_some {input rest : Input} {byte : UInt8}
    (taken : input.next? = some (byte, rest)) : input.bytes = byte :: rest.bytes := by
  obtain ⟨bytes, size, size_eq⟩ := input
  cases bytes with
  | nil => contradiction
  | cons first others =>
      simp only [next?, Option.some.injEq, Prod.mk.injEq] at taken
      obtain ⟨rfl, rfl⟩ := taken
      rfl

theorem bytes_of_take_eq_ok {input rest : Input} {count : Nat} {front : Bytes}
    (taken : input.take count = .ok (front, rest)) :
    front.length = count ∧ input.bytes = front ++ rest.bytes := by
  unfold take at taken
  split at taken
  · rename_i fits
    simp only [Except.ok.injEq, Prod.mk.injEq] at taken
    obtain ⟨rfl, rfl⟩ := taken
    rw [← input.size_eq] at fits
    exact ⟨List.length_take_of_le fits, (List.take_append_drop count input.bytes).symm⟩
  · contradiction

theorem bytes_of_skip_eq_ok {input rest : Input} {count : Nat}
    (skipped : input.skip count = .ok rest) :
    ∃ front : Bytes, front.length = count ∧ input.bytes = front ++ rest.bytes := by
  unfold skip at skipped
  split at skipped
  · rename_i fits
    have taken : input.take count = .ok (input.bytes.take count, rest) := by
      rw [take, if_pos fits, ← Except.ok.inj skipped]
    exact ⟨_, bytes_of_take_eq_ok taken⟩
  · contradiction

end Input

/-! ## Local readers -/

/-- Whatever the reader accepts is a front part of the input, of at least one byte, that it reads
as the same value in front of any other bytes. -/
def IsLocal {ε α : Type} (read : Input → Except ε (α × Input)) : Prop :=
  ∀ ⦃input value rest⦄, read input = .ok (value, rest) →
    ∃ front, front ≠ [] ∧ input.bytes = front ++ rest.bytes ∧ Reads read front value

/-- A reader is local if what it does is decided by the value that a local one reads. -/
theorem IsLocal.through {ε δ α β : Type} {inner : Input → Except ε (α × Input)}
    {outer : Input → Except δ (β × Input)} (isLocal : IsLocal inner)
    (decided : ∀ {input value rest}, outer input = .ok (value, rest) →
      ∃ read, inner input = .ok (read, rest) ∧
        ∀ {other last}, inner other = .ok (read, last) → outer other = .ok (value, last)) :
    IsLocal outer := by
  intro input value rest accepted
  obtain ⟨read, innerAccepted, again⟩ := decided accepted
  obtain ⟨front, nonempty, split, reads⟩ := isLocal innerAccepted
  exact ⟨front, nonempty, split, fun suffix => again (reads suffix)⟩

/-- A reader is local if it yields an image of what a local one reads, and fails where that one
fails. -/
theorem IsLocal.image {ε δ α β : Type} {inner : Input → Except ε (α × Input)}
    {outer : Input → Except δ (β × Input)} (isLocal : IsLocal inner) (image : α → β)
    (onError : ε → δ)
    (accepts : ∀ {input value rest}, inner input = .ok (value, rest) →
      outer input = .ok (image value, rest))
    (fails : ∀ {input error}, inner input = .error error → outer input = .error (onError error)) :
    IsLocal outer := by
  refine isLocal.through fun {input value rest} accepted => ?_
  rcases result : inner input with error | ⟨read, last⟩
  · rw [fails result] at accepted
    contradiction
  · rw [accepts result, Except.ok.injEq, Prod.mk.injEq] at accepted
    obtain ⟨rfl, rfl⟩ := accepted
    exact ⟨read, rfl, accepts⟩

theorem readGroups_isLocal (groups : Nat) : IsLocal (readGroups groups) := by
  induction groups with
  | zero =>
      intro input n rest accepted
      contradiction
  | succ groups inductionHypothesis =>
      intro input n rest accepted
      rw [readGroups] at accepted
      split at accepted
      · contradiction
      · rename_i byte others taken
        have bytes := Input.bytes_of_next?_eq_some taken
        split at accepted
        · rename_i small
          simp only [Except.ok.injEq, Prod.mk.injEq] at accepted
          obtain ⟨rfl, rfl⟩ := accepted
          refine ⟨[byte], List.cons_ne_nil _ _, bytes, fun suffix => ?_⟩
          rw [List.singleton_append, readGroups, Input.next?_cons]
          simp only [small, ↓reduceIte]
        · rename_i large
          split at accepted
          · contradiction
          · rename_i high last read
            simp only [Except.ok.injEq, Prod.mk.injEq] at accepted
            obtain ⟨rfl, rfl⟩ := accepted
            obtain ⟨front, _, split, reads⟩ := inductionHypothesis read
            refine ⟨byte :: front, List.cons_ne_nil _ _, by rw [bytes, split]; rfl, ?_⟩
            intro suffix
            rw [List.cons_append, readGroups, Input.next?_cons]
            simp only [large, ↓reduceIte, reads suffix]

theorem readVarint_isLocal : IsLocal readVarint := by
  refine (readGroups_isLocal 10).through fun {input number rest} accepted => ?_
  unfold readVarint at accepted
  split at accepted
  · contradiction
  · rename_i n last read
    split at accepted
    · rename_i bound
      simp only [Except.ok.injEq, Prod.mk.injEq] at accepted
      obtain ⟨rfl, rfl⟩ := accepted
      exact ⟨n, read, fun again => by simp only [readVarint, again, bound, ↓reduceIte]⟩
    · contradiction

theorem Key.read_isLocal : IsLocal Key.read := by
  refine readVarint_isLocal.through fun {input key rest} accepted => ?_
  unfold Key.read at accepted
  split at accepted
  · contradiction
  · rename_i value last read
    split at accepted
    · contradiction
    · rename_i small
      split at accepted
      · contradiction
      · rename_i wireType known
        split at accepted
        · contradiction
        · rename_i nonzero
          simp only [Except.ok.injEq, Prod.mk.injEq] at accepted
          obtain ⟨rfl, rfl⟩ := accepted
          exact ⟨value, read, fun again => by
            simp only [Key.read, again, small, ↓reduceIte, known, nonzero]⟩

/-! ## Repetition -/

section Repetition

variable {ε σ : Type} {step : σ → Input → Except ε (σ × Input)}

/-- Repetition of local steps reads a chain. -/
theorem chain_of_repeatUntil (isLocal : ∀ state, IsLocal (step state)) {stop : Nat}
    {state final : σ} {input rest : Input}
    (accepted : input.repeatUntil stop step state = .ok (final, rest)) :
    ∃ front, input.bytes = front ++ rest.bytes ∧ Chain (Steps step) state front final ∧
      rest.size ≤ stop := by
  induction state, input using Input.repeatUntil.induct stop step with
  | case1 state input reached =>
      rw [Input.repeatUntil, if_pos reached] at accepted
      simp only [Except.ok.injEq, Prod.mk.injEq] at accepted
      obtain ⟨rfl, rfl⟩ := accepted
      exact ⟨[], rfl, .done state, reached⟩
  | case2 state input goesOn error failed =>
      rw [Input.repeatUntil, if_neg goesOn, failed] at accepted
      contradiction
  | case3 state input goesOn middle last read progress inductionHypothesis =>
      rw [Input.repeatUntil, if_neg goesOn, read] at accepted
      simp only [progress, ↓reduceIte] at accepted
      obtain ⟨first, nonempty, split, reads⟩ := isLocal state read
      obtain ⟨others, splitLast, chain, behind⟩ := inductionHypothesis accepted
      refine ⟨first ++ others, ?_, .next ⟨nonempty, reads⟩ chain, behind⟩
      rw [split, splitLast, List.append_assoc]
  | case4 state input goesOn middle last read stuck =>
      -- A local step has read at least one byte.
      obtain ⟨first, nonempty, split, _⟩ := isLocal state read
      have frontLength : 0 < first.length := List.length_pos_iff.mpr nonempty
      have size := congrArg List.length split
      rw [List.length_append, input.size_eq, last.size_eq] at size
      omega

end Repetition

theorem readDelimited_isLocal {σ : Type} {step : σ → Input → Except DecodeError (σ × Input)}
    (isLocal : ∀ state, IsLocal (step state)) (state : σ) :
    IsLocal (readDelimited step state) := by
  intro input final rest accepted
  unfold readDelimited at accepted
  split at accepted
  · contradiction
  · rename_i length contents announced
    split at accepted
    · contradiction
    · rename_i fits
      split at accepted
      · contradiction
      · rename_i other last repeated
        split at accepted
        · rename_i exact
          simp only [Except.ok.injEq, Prod.mk.injEq] at accepted
          obtain ⟨rfl, rfl⟩ := accepted
          obtain ⟨lengthBytes, nonempty, split, reads⟩ := readVarint_isLocal announced
          obtain ⟨bytes, splitContents, chain, _⟩ := chain_of_repeatUntil isLocal repeated
          have size := congrArg List.length splitContents
          rw [List.length_append, contents.size_eq, last.size_eq] at size
          refine ⟨lengthBytes ++ bytes, List.append_ne_nil_of_left_ne_nil nonempty _, ?_,
            reads_delimited reads (by omega) chain⟩
          rw [split, splitContents, List.append_assoc]
        · contradiction

/-! ## Undeclared fields -/

/-- What is skipped is a front part of the input, of at least one byte, that is skipped in front of
any other bytes. -/
def SkipsLocally {ε : Type} (skip : Input → Except ε Input) : Prop :=
  ∀ ⦃input rest⦄, skip input = .ok rest →
    ∃ front, front ≠ [] ∧ input.bytes = front ++ rest.bytes ∧ Skips skip front

theorem skipGroup_skipsLocally {skip : Key → Input → Except Fault Input}
    (fields : ∀ key, SkipsLocally (skip key)) (number : Nat) :
    SkipsLocally (skipGroup skip number) := by
  intro input rest skipped
  fun_induction skipGroup skip number input with
  | case1 input fault failed => contradiction
  | case2 input key last read isEnd own =>
      obtain ⟨keyNumber, wireType⟩ := key
      simp only at isEnd own
      subst isEnd own
      obtain ⟨keyBytes, nonempty, split, reads⟩ := Key.read_isLocal read
      rw [← Except.ok.inj skipped]
      exact ⟨keyBytes, nonempty, split, skips_groupEnd reads⟩
  | case3 => contradiction
  | case4 => contradiction
  | case5 input key contents read notEnd last field _ inductionHypothesis =>
      obtain ⟨keyBytes, nonempty, split, reads⟩ := Key.read_isLocal read
      obtain ⟨payload, _, splitContents, skips⟩ := fields key field
      obtain ⟨others, _, splitLast, skipsOthers⟩ := inductionHypothesis skipped
      refine ⟨keyBytes ++ payload ++ others, ?_, ?_,
        skips_groupField reads notEnd skips skipsOthers⟩
      · exact List.append_ne_nil_of_left_ne_nil (List.append_ne_nil_of_left_ne_nil nonempty _) _
      · rw [split, splitContents, splitLast, List.append_assoc, List.append_assoc]
  | case6 => contradiction

theorem skipField_skipsLocally (budget : Nat) (key : Key) :
    SkipsLocally (skipField budget key) := by
  induction budget generalizing key with
  | zero =>
      intro input rest skipped
      contradiction
  | succ budget inductionHypothesis =>
      intro input rest skipped
      obtain ⟨number, wireType⟩ := key
      cases wireType with
      | varint =>
          simp only [skipField] at skipped
          split at skipped
          · contradiction
          · rename_i value last read
            obtain ⟨front, nonempty, split, reads⟩ := readVarint_isLocal read
            rw [← Except.ok.inj skipped]
            exact ⟨front, nonempty, split, skips_varint reads⟩
      | sixtyFourBit =>
          obtain ⟨front, length, split⟩ := Input.bytes_of_skip_eq_ok skipped
          exact ⟨front, List.ne_nil_of_length_eq_add_one length, split, skips_sixtyFourBit length⟩
      | thirtyTwoBit =>
          obtain ⟨front, length, split⟩ := Input.bytes_of_skip_eq_ok skipped
          exact ⟨front, List.ne_nil_of_length_eq_add_one length, split, skips_thirtyTwoBit length⟩
      | lengthDelimited =>
          simp only [skipField] at skipped
          split at skipped
          · contradiction
          · rename_i length contents announced
            obtain ⟨lengthBytes, nonempty, split, reads⟩ := readVarint_isLocal announced
            obtain ⟨front, exact, splitContents⟩ := Input.bytes_of_skip_eq_ok skipped
            refine ⟨lengthBytes ++ front, List.append_ne_nil_of_left_ne_nil nonempty _, ?_,
              skips_lengthDelimited reads exact.symm⟩
            rw [split, splitContents, List.append_assoc]
      | startGroup =>
          obtain ⟨front, nonempty, split, skips⟩ :=
            skipGroup_skipsLocally inductionHypothesis number skipped
          exact ⟨front, nonempty, split, skips_startGroup skips⟩
      | endGroup => contradiction

/-! ## Scalars -/

namespace Scalar

theorem ofVarint_isLocal {α : Type} (toNumber : α → Nat) (ofNumber : UInt64 → α) :
    IsLocal (ofVarint toNumber ofNumber).read :=
  readVarint_isLocal.image ofNumber id (fun read => by simp only [ofVarint, read])
    fun failed => by simp only [ofVarint, failed, id_eq]

theorem double_isLocal : IsLocal double.read := by
  intro input value rest accepted
  simp only [double] at accepted
  split at accepted
  · contradiction
  · rename_i bytes last taken
    simp only [Except.ok.injEq, Prod.mk.injEq] at accepted
    obtain ⟨rfl, rfl⟩ := accepted
    obtain ⟨length, split⟩ := Input.bytes_of_take_eq_ok taken
    refine ⟨bytes, List.ne_nil_of_length_eq_add_one length, split, fun suffix => ?_⟩
    simp only [double, ← length, Input.take_append]

theorem text_isLocal : IsLocal text.read := by
  intro input value rest accepted
  simp only [text] at accepted
  split at accepted
  · contradiction
  · rename_i length contents announced
    split at accepted
    · contradiction
    · rename_i bytes last taken
      split at accepted
      · contradiction
      · rename_i read valid
        simp only [Except.ok.injEq, Prod.mk.injEq] at accepted
        obtain ⟨rfl, rfl⟩ := accepted
        obtain ⟨lengthBytes, nonempty, split, reads⟩ := readVarint_isLocal announced
        obtain ⟨exact, splitContents⟩ := Input.bytes_of_take_eq_ok taken
        refine ⟨lengthBytes ++ bytes, List.append_ne_nil_of_left_ne_nil nonempty _, ?_,
          fun suffix => ?_⟩
        · rw [split, splitContents, List.append_assoc]
        · simp only [text, List.append_assoc, reads (bytes ++ suffix), ← exact, Input.take_append,
            valid]

variable {α : Type} {scalar : Scalar α}

theorem readAs_isLocal (isLocal : IsLocal scalar.read) (found : WireType) :
    IsLocal (scalar.readAs found) := by
  by_cases expected : found = scalar.wireType
  · refine isLocal.image id .ofFault (fun read => ?_) fun failed => ?_
    · simp only [readAs, expected, ↓reduceIte, read, id_eq]
    · simp only [readAs, expected, ↓reduceIte, failed]
  · intro input value rest accepted
    rw [readAs, if_neg expected] at accepted
    contradiction

theorem collect_isLocal (isLocal : IsLocal scalar.read) (reversed : List α) :
    IsLocal (scalar.collect reversed) :=
  isLocal.image (· :: reversed) .ofFault (fun read => by simp only [collect, read])
    fun failed => by simp only [collect, failed]

end Scalar

/-! ## Forms of fields -/

namespace FieldForm

variable {α β γ : Type}

/-- The merge step of a form is local, whatever was merged before. -/
def IsLocal (form : FieldForm α) : Prop :=
  ∀ budget key value, Wire.IsLocal (form.merge budget key value)

theorem plain_isLocal {scalar : Scalar α} (isLocal : Wire.IsLocal scalar.read) (number : Nat)
    (default : α) (omitted : α → Bool) : (plain scalar number default omitted).IsLocal :=
  fun _ key _ => Scalar.readAs_isLocal isLocal key.wireType

theorem repeated_isLocal {scalar : Scalar α} (isLocal : Wire.IsLocal scalar.read) (number : Nat) :
    (repeated scalar number).IsLocal :=
  fun _ key values => (Scalar.readAs_isLocal isLocal key.wireType).image (values ++ [·]) id
    (fun read => by simp only [repeated, read]) fun failed => by simp only [repeated, failed, id_eq]

theorem packed_isLocal {scalar : Scalar α} (isLocal : Wire.IsLocal scalar.read) (number : Nat) :
    (packed scalar number).IsLocal := by
  intro budget key values
  by_cases block : key.wireType = .lengthDelimited
  · exact (readDelimited_isLocal (Scalar.collect_isLocal isLocal) []).image
      (fun reversed => values ++ reversed.reverse) id
      (fun read => by simp only [packed, block, ↓reduceIte, read])
      fun failed => by simp only [packed, block, ↓reduceIte, failed, id_eq]
  · exact (Scalar.readAs_isLocal isLocal key.wireType).image (values ++ [·]) id
      (fun read => by simp only [packed, block, ↓reduceIte, read])
      fun failed => by simp only [packed, block, ↓reduceIte, failed, id_eq]

theorem oneOf_isLocal {first : Scalar α} {second : Scalar β} (firstLocal : Wire.IsLocal first.read)
    (secondLocal : Wire.IsLocal second.read) (firstNumber secondNumber : Nat)
    (ofEither : Either α β → γ) (toEither : γ → Either α β) :
    (oneOf first firstNumber second secondNumber ofEither toEither).IsLocal := by
  intro budget key value
  by_cases isFirst : key.number = firstNumber
  · exact (Scalar.readAs_isLocal firstLocal key.wireType).image
      (fun value => some (ofEither (.first value))) id
      (fun read => by simp only [oneOf, isFirst, ↓reduceIte, read])
      fun failed => by simp only [oneOf, isFirst, ↓reduceIte, failed, id_eq]
  · exact (Scalar.readAs_isLocal secondLocal key.wireType).image
      (fun value => some (ofEither (.second value))) id
      (fun read => by simp only [oneOf, isFirst, ↓reduceIte, read])
      fun failed => by simp only [oneOf, isFirst, ↓reduceIte, failed, id_eq]

end FieldForm

/-! ## Schemas -/

namespace Schema

variable {M : Type} {schema : Schema M}

/-- What a decoder does next is local, whatever it merged before. -/
def IsLocal (schema : Schema M) : Prop :=
  ∀ budget message, Wire.IsLocal (schema.mergeNext budget message)

theorem mergeRecord_isLocal (fields : ∀ field ∈ schema.fields, field.form.IsLocal) (budget : Nat)
    (key : Key) (message : M) : Wire.IsLocal (schema.mergeRecord budget key message) := by
  cases declared : schema.field? key.number with
  | some field =>
      have member : field ∈ schema.fields := List.mem_of_find?_eq_some declared
      exact (fields field member budget key (field.get message)).image
        (fun value => field.set value message) (·.within ⟨schema.name, field.name⟩)
        (fun read => by simp only [mergeRecord, declared, read])
        fun failed => by simp only [mergeRecord, declared, failed]
  | none =>
      intro input merged rest accepted
      simp only [mergeRecord, declared] at accepted
      split at accepted
      · contradiction
      · rename_i last skipped
        simp only [Except.ok.injEq, Prod.mk.injEq] at accepted
        obtain ⟨rfl, rfl⟩ := accepted
        obtain ⟨front, nonempty, split, skips⟩ := skipField_skipsLocally budget key skipped
        refine ⟨front, nonempty, split, fun suffix => ?_⟩
        simp only [mergeRecord, declared, skips suffix]

/-- A schema is local if the forms of its fields are. -/
theorem isLocal_of_fields (fields : ∀ field ∈ schema.fields, field.form.IsLocal) :
    schema.IsLocal := by
  intro budget message input merged rest accepted
  unfold mergeNext at accepted
  split at accepted
  · contradiction
  · rename_i key contents read
    obtain ⟨keyBytes, nonempty, split, readsKey⟩ := Key.read_isLocal read
    obtain ⟨payload, _, splitContents, reads⟩ :=
      mergeRecord_isLocal fields budget key message accepted
    refine ⟨keyBytes ++ payload, List.append_ne_nil_of_left_ne_nil nonempty _, ?_,
      fun suffix => ?_⟩
    · rw [split, splitContents, List.append_assoc]
    · rw [mergeNext, List.append_assoc, readsKey (payload ++ suffix)]
      exact reads suffix

section Nested

variable (isLocal : schema.IsLocal)
include isLocal

theorem IsLocal.mergeNested (budget : Nat) (found : WireType) (message : M) :
    Wire.IsLocal (schema.mergeNested budget found message) := by
  intro input merged rest accepted
  unfold Schema.mergeNested at accepted
  split at accepted
  · rename_i expected
    cases budget with
    | zero => contradiction
    | succ budget =>
        obtain ⟨front, nonempty, split, reads⟩ :=
          readDelimited_isLocal (isLocal budget) message accepted
        refine ⟨front, nonempty, split, fun suffix => ?_⟩
        simp only [Schema.mergeNested, expected, ↓reduceIte, reads suffix]
  · contradiction

theorem IsLocal.repeated (number : Nat) : (schema.repeated number).IsLocal :=
  fun budget key messages => (isLocal.mergeNested budget key.wireType schema.empty).image
    (messages ++ [·]) id (fun read => by simp only [Schema.repeated, read])
    fun failed => by simp only [Schema.repeated, failed, id_eq]

theorem IsLocal.optional (number : Nat) : (schema.optional number).IsLocal :=
  fun budget key message =>
    (isLocal.mergeNested budget key.wireType (message.getD schema.empty)).image some id
      (fun read => by simp only [Schema.optional, read])
      fun failed => by simp only [Schema.optional, failed, id_eq]

end Nested
end Schema
end RemoteWrite.Wire
