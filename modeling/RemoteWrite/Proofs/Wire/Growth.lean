import RemoteWrite.Proofs.Wire.Locality

/-!
Contract: a message grows by no more than the bytes it is read from.

Every record takes at least one byte, so whatever counts the records of a
message is bounded by the length of the input.

Owns:
- measures that steps raise by at most as many bytes as they read;
- such measures of messages, from those of their fields.

Does not own: particular measures.
-/

namespace RemoteWrite.Wire

/-! ## Bounded steps -/

theorem IsLocal.size_lt {ε α : Type} {read : Input → Except ε (α × Input)} (isLocal : IsLocal read)
    {input rest : Input} {value : α} (accepted : read input = .ok (value, rest)) :
    rest.size < input.size := by
  obtain ⟨front, nonempty, split, _⟩ := isLocal accepted
  have frontLength : 0 < front.length := List.length_pos_iff.mpr nonempty
  have size := congrArg List.length split
  rw [List.length_append, input.size_eq, rest.size_eq] at size
  omega

/-- The measure of the state is raised by at most as many bytes as the step reads. -/
def Bounds {ε σ : Type} (measure : σ → Nat) (step : σ → Input → Except ε (σ × Input)) : Prop :=
  ∀ ⦃state input final rest⦄, step state input = .ok (final, rest) →
    measure final + rest.size ≤ measure state + input.size

theorem Bounds.repeatUntil {ε σ : Type} {measure : σ → Nat}
    {step : σ → Input → Except ε (σ × Input)} (bounds : Bounds measure step) (stop : Nat) :
    Bounds measure fun state input => input.repeatUntil stop step state := by
  intro state input final rest accepted
  simp only at accepted
  fun_induction Input.repeatUntil stop step state input with
  | case1 state input reached =>
      rw [Except.ok.injEq, Prod.mk.injEq] at accepted
      obtain ⟨rfl, rfl⟩ := accepted
      exact Nat.le_refl _
  | case2 => contradiction
  | case3 state input goesOn middle last read progress inductionHypothesis =>
      exact Nat.le_trans (inductionHypothesis accepted) (bounds read)
  | case4 state input goesOn middle last read stuck =>
      rw [Except.ok.injEq, Prod.mk.injEq] at accepted
      obtain ⟨rfl, rfl⟩ := accepted
      exact bounds read

theorem Bounds.readDelimited {σ : Type} {measure : σ → Nat}
    {step : σ → Input → Except DecodeError (σ × Input)} (bounds : Bounds measure step) :
    Bounds measure (readDelimited step) := by
  intro state input final rest accepted
  unfold Wire.readDelimited at accepted
  split at accepted
  · contradiction
  · rename_i length contents announced
    split at accepted
    · contradiction
    · split at accepted
      · contradiction
      · rename_i merged last repeated
        split at accepted
        · rw [Except.ok.injEq, Prod.mk.injEq] at accepted
          obtain ⟨rfl, rfl⟩ := accepted
          have shorter := readVarint_isLocal.size_lt announced
          have raised := bounds.repeatUntil _ repeated
          omega
        · contradiction

/-! ## Bounded messages -/

/-- Merging a record of the field raises the measure by at most as many bytes as it reads. -/
def Field.Bounds {M : Type} (field : Field M) (measure : M → Nat) : Prop :=
  ∀ ⦃budget key message input value rest⦄,
    field.form.merge budget key (field.get message) input = .ok (value, rest) →
      measure (field.set value message) + rest.size ≤ measure message + input.size

theorem Field.bounds_of_unchanged {M : Type} {field : Field M} {measure : M → Nat}
    (isLocal : field.form.IsLocal)
    (unchanged : ∀ value message, measure (field.set value message) = measure message) :
    field.Bounds measure := by
  intro budget key message input value rest accepted
  have shorter := (isLocal budget key (field.get message)).size_lt accepted
  rw [unchanged]
  omega

namespace Schema

variable {M : Type} {schema : Schema M} {measure : M → Nat}

theorem bounds_of_fields (fields : ∀ field ∈ schema.fields, field.Bounds measure) (budget : Nat) :
    Bounds measure (schema.mergeNext budget) := by
  intro message input merged rest accepted
  unfold mergeNext at accepted
  split at accepted
  · contradiction
  · rename_i key contents read
    have shorter := Key.read_isLocal.size_lt read
    unfold mergeRecord at accepted
    split at accepted
    · rename_i field declared
      split at accepted
      · contradiction
      · rename_i value last merges
        rw [Except.ok.injEq, Prod.mk.injEq] at accepted
        obtain ⟨rfl, rfl⟩ := accepted
        have raised := fields field (List.mem_of_find?_eq_some declared) merges
        omega
    · split at accepted
      · contradiction
      · rename_i last skipped
        rw [Except.ok.injEq, Prod.mk.injEq] at accepted
        obtain ⟨rfl, rfl⟩ := accepted
        obtain ⟨front, _, split, _⟩ := skipField_skipsLocally budget key skipped
        have size := congrArg List.length split
        rw [List.length_append, contents.size_eq, last.size_eq] at size
        omega

theorem mergeNested_le (bounds : ∀ budget, Bounds measure (schema.mergeNext budget))
    {budget : Nat} {found : WireType} {message merged : M} {input rest : Input}
    (accepted : schema.mergeNested budget found message input = .ok (merged, rest)) :
    measure merged + rest.size ≤ measure message + input.size := by
  unfold mergeNested at accepted
  split at accepted
  · cases budget with
    | zero => contradiction
    | succ budget => exact (bounds budget).readDelimited accepted
  · contradiction

/-- A message that is merged into a list is added at its end. -/
theorem repeated_merged {number budget : Nat} {key : Key} {messages merged : List M}
    {input rest : Input}
    (accepted : (schema.repeated number).merge budget key messages input = .ok (merged, rest)) :
    ∃ message, merged = messages ++ [message] ∧
      schema.mergeNested budget key.wireType schema.empty input = .ok (message, rest) := by
  simp only [Schema.repeated] at accepted
  split at accepted
  · contradiction
  · rename_i message last nested
    rw [Except.ok.injEq, Prod.mk.injEq] at accepted
    obtain ⟨rfl, rfl⟩ := accepted
    exact ⟨message, rfl, nested⟩

/-- Every message in a list takes at least one byte, so a measure that it raises by one is
bounded. -/
theorem IsLocal.bounds_repeated {N : Type} {inner : Schema N} (isLocal : inner.IsLocal)
    {number : Nat} {name : String} {get : M → List N} {set : List N → M → M}
    {get_set : ∀ value message, get (set value message) = value}
    {set_set : ∀ value earlier message, set value (set earlier message) = set value message}
    {set_get : ∀ message, set (get message) message = message}
    (one : ∀ item message, measure (set (get message ++ [item]) message) ≤ measure message + 1) :
    Field.Bounds ⟨name, inner.repeated number, get, set, get_set, set_set, set_get⟩ measure := by
  intro budget key message input value rest accepted
  have shorter := (isLocal.repeated number budget key (get message)).size_lt accepted
  obtain ⟨item, rfl, _⟩ := repeated_merged accepted
  have raised := one item message
  show measure (set (get message ++ [item]) message) + rest.size ≤ _
  omega

/-- What decodes is bounded by the length of the input. -/
theorem measure_le_of_decode (bounds : Bounds measure (schema.mergeNext recursionLimit))
    {bytes : Bytes} {message : M} (decoded : schema.decode bytes = .ok message) :
    measure message ≤ measure schema.empty + bytes.length := by
  unfold decode at decoded
  split at decoded
  · contradiction
  · rename_i merged rest repeated
    have raised := bounds.repeatUntil 0 repeated
    rw [Except.ok.inj decoded, Input.ofBytes_size] at raised
    omega

end Schema
end RemoteWrite.Wire
