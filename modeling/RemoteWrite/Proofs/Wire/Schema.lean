import RemoteWrite.Proofs.Wire.Field
import RemoteWrite.Wire.Schema

/-!
Contract: a message comes back from its encoding if every field does.

The fields are written one after the other. A field that has not been read
yet still holds its default, because setting the others leaves it alone.

Owns:
- the declared field of a number;
- records of a field as records of its message;
- the law of a schema, and its proof from the laws of its fields;
- the laws of the field forms that hold messages.

Does not own: the schemas of particular messages.
-/

namespace RemoteWrite.Wire

variable {M : Type}

/-! ## Records of declared fields -/

private theorem find?_of_nodup {fields : List (Field M)}
    (nodup : (fields.flatMap fun field => field.form.numbers).Nodup) {field : Field M}
    (member : field ∈ fields) {number : Nat} (own : number ∈ field.form.numbers) :
    fields.find? (fun field => field.form.numbers.contains number) = some field := by
  induction fields with
  | nil => contradiction
  | cons first rest inductionHypothesis =>
      rw [List.flatMap_cons, List.nodup_append] at nodup
      obtain ⟨_, others, disjoint⟩ := nodup
      rcases List.mem_cons.mp member with rfl | later
      · have contains : field.form.numbers.contains number = true :=
          List.contains_iff_mem.mpr own
        rw [List.find?_cons, contains]
      · have elsewhere : number ∈ rest.flatMap fun field => field.form.numbers :=
          List.mem_flatMap.mpr ⟨field, later, own⟩
        have notFirst : first.form.numbers.contains number = false := by
          rw [Bool.eq_false_iff]
          intro contains
          exact disjoint number (List.contains_iff_mem.mp contains) number elsewhere rfl
        rw [List.find?_cons, notFirst]
        exact inductionHypothesis others later

namespace Schema

variable {schema : Schema M}

/-- Every number of a field leads to that field. -/
theorem field?_eq {field : Field M} (member : field ∈ schema.fields) {number : Nat}
    (own : number ∈ field.form.numbers) : schema.field? number = some field :=
  find?_of_nodup schema.numbers_nodup member own

/-- A record of a field changes that field of the message. -/
theorem steps_of_merges {field : Field M} (member : field ∈ schema.fields) {budget : Nat}
    {value merged : field.Value} {bytes : Bytes}
    (merges : field.form.Merges budget value bytes merged) (message : M) :
    Steps (schema.mergeNext budget) (field.set value message) bytes
      (field.set merged message) := by
  obtain ⟨key, keyBytes, payload, rfl, own, readsKey, readsPayload⟩ := merges
  refine ⟨List.append_ne_nil_of_left_ne_nil (reads_key_ne_nil readsKey) payload, fun rest => ?_⟩
  rw [List.append_assoc, mergeNext, readsKey (payload ++ rest)]
  simp only [mergeRecord, field?_eq member own, field.get_set, readsPayload rest, field.set_set]

/-- Records of a field, one after the other, change that field of the message. -/
theorem run_of_merges {field : Field M} (member : field ∈ schema.fields) {budget : Nat}
    {value merged : field.Value} {records : List Bytes}
    (run : Run (field.form.Merges budget) value records merged) (message : M) :
    Run (Steps (schema.mergeNext budget)) (field.set value message) records
      (field.set merged message) :=
  run.map (fun value => field.set value message) fun merges =>
    steps_of_merges member merges message

/-- The records of fields that hold their defaults, one field after the
other. -/
theorem chain_fields {budget : Nat} {source target : M} {fields : List (Field M)}
    (declared : ∀ field ∈ fields, field ∈ schema.fields)
    (apart : fields.Pairwise Field.Apart)
    (chains : ∀ field ∈ fields, Chain (field.form.Merges budget) field.form.default
      (field.form.write (field.get source)) (field.get target))
    {state : M} (fresh : ∀ field ∈ fields, field.get state = field.form.default) :
    Chain (Steps (schema.mergeNext budget)) state
      (fields.flatMap fun field => field.form.write (field.get source))
      (fields.foldl (fun built field => field.set (field.get target) built) state) := by
  induction fields generalizing state with
  | nil => exact .done state
  | cons field rest inductionHypothesis =>
      obtain ⟨fieldApart, restApart⟩ := List.pairwise_cons.mp apart
      -- Setting the default shows the state as the image that the chain of
      -- this field starts from.
      have unset : field.set field.form.default state = state := by
        rw [← fresh field List.mem_cons_self, field.set_get]
      have first := (chains field List.mem_cons_self).map (fun value => field.set value state)
        fun merges => steps_of_merges (declared field List.mem_cons_self) merges state
      rw [unset] at first
      have stillFresh : ∀ other ∈ rest,
          other.get (field.set (field.get target) state) = other.form.default := by
        intro other member
        rw [(fieldApart other member).1]
        exact fresh other (List.mem_cons_of_mem _ member)
      exact first.append (inductionHypothesis
        (fun other member => declared other (List.mem_cons_of_mem _ member)) restApart
        (fun other member => chains other (List.mem_cons_of_mem _ member)) stillFresh)

/-! ## The law of a schema -/

/-- The law of a schema whose messages nest at most `depth` deep. Writing a
message and reading it back yields the canonical one, which is written the
same. -/
structure Faithful (schema : Schema M) (depth : Nat) (canonical : M → M) : Prop where
  length_write : ∀ {message}, schema.size message < 2 ^ 64 →
    (schema.write message).length = schema.size message
  chain_write : ∀ {budget message}, depth ≤ budget → schema.size message < 2 ^ 64 →
    Chain (Steps (schema.mergeNext budget)) schema.empty (schema.write message)
      (canonical message)
  write_canonical : ∀ message, schema.write (canonical message) = schema.write message
  size_canonical : ∀ message, schema.size (canonical message) = schema.size message

theorem faithful_of_fields {depth : Nat} {canonical : M → M}
    (fields : ∀ field ∈ schema.fields, ∃ restored, field.form.Faithful depth restored ∧
      ∀ message, field.get (canonical message) = restored (field.get message)) :
    schema.Faithful depth canonical where
  length_write {message} fits := by
    refine length_flatMap_write fun field member => ?_
    obtain ⟨restored, faithful, _⟩ := fields field member
    exact faithful.length_write (size_lt_of_mem fits member)
  chain_write {budget message} enough fits := by
    have chains : ∀ field ∈ schema.fields, Chain (field.form.Merges budget) field.form.default
        (field.form.write (field.get message)) (field.get (canonical message)) := by
      intro field member
      obtain ⟨restored, faithful, gets⟩ := fields field member
      rw [gets]
      exact faithful.chain_write enough (size_lt_of_mem fits member)
    have chain := chain_fields (fun _ member => member) schema.apart chains schema.get_empty
    rwa [schema.rebuild] at chain
  write_canonical message := by
    refine congrArg List.flatten (List.map_congr_left fun field member => ?_)
    obtain ⟨restored, faithful, gets⟩ := fields field member
    rw [gets, faithful.write_canonical]
  size_canonical message := by
    refine congrArg List.sum (List.map_congr_left fun field member => ?_)
    obtain ⟨restored, faithful, gets⟩ := fields field member
    rw [gets, faithful.size_canonical]

/-- A chain of records is decoded as a whole. -/
theorem decode_chain {bytes : Bytes} {message : M}
    (chain : Chain (Steps (schema.mergeNext recursionLimit)) schema.empty bytes message) :
    schema.decode bytes = .ok message := by
  have exact := repeatUntil_chain_exact chain []
  rw [List.append_nil, List.length_nil] at exact
  rw [decode, exact]

theorem Faithful.decode_write {depth : Nat} {canonical : M → M}
    (faithful : schema.Faithful depth canonical) (shallow : depth ≤ recursionLimit) {message : M}
    (fits : schema.size message < 2 ^ 64) :
    schema.decode (schema.write message) = .ok (canonical message) :=
  decode_chain (faithful.chain_write shallow fits)

/-! ## Fields that hold messages -/

section Nested

variable {depth : Nat} {canonical : M → M}

theorem Faithful.length_writeNested (faithful : schema.Faithful depth canonical) {number : Nat}
    (known : Key.IsNumber number) {message : M}
    (fits : schema.nestedSize number message < 2 ^ 64) :
    (schema.writeNested number message).length = schema.nestedSize number message := by
  rw [nestedSize] at fits
  rw [writeNested, nestedSize, List.length_append, List.length_append, Key.length_write known,
    length_varint_eq (by omega), faithful.length_write (by omega)]

theorem Faithful.writeNested_canonical (faithful : schema.Faithful depth canonical)
    (number : Nat) (message : M) :
    schema.writeNested number (canonical message) = schema.writeNested number message := by
  rw [writeNested, writeNested, faithful.size_canonical, faithful.write_canonical]

theorem Faithful.nestedSize_canonical (faithful : schema.Faithful depth canonical)
    (number : Nat) (message : M) :
    schema.nestedSize number (canonical message) = schema.nestedSize number message := by
  rw [nestedSize, nestedSize, faithful.size_canonical]

/-- A message in a field is merged into an empty one, if the form does so. -/
theorem Faithful.merges_nested (faithful : schema.Faithful depth canonical) {number : Nat}
    (known : Key.IsNumber number) {α : Type} {form : FieldForm α}
    (own : number ∈ form.numbers) {budget : Nat} (enough : depth < budget) {before after : α}
    {message : M} (fits : schema.nestedSize number message < 2 ^ 64)
    (merges : ∀ {payload}, Reads (schema.mergeNested budget .lengthDelimited schema.empty) payload
        (canonical message) →
      Reads (form.merge budget ⟨number, .lengthDelimited⟩ before) payload after) :
    form.Merges budget before (schema.writeNested number message) after := by
  rw [nestedSize] at fits
  have bound : schema.size message < 2 ^ 64 := by omega
  obtain ⟨inner, rfl⟩ : ∃ inner, budget = inner + 1 := ⟨budget - 1, by omega⟩
  have length : (UInt64.ofNat (schema.size message)).toNat = (schema.write message).length := by
    rw [UInt64.toNat_ofNat', Nat.mod_eq_of_lt bound, faithful.length_write bound]
  have contents := reads_delimited (reads_varint bound) length
    (faithful.chain_write (Nat.le_of_lt_succ enough) bound)
  refine ⟨⟨number, .lengthDelimited⟩, _, _, List.append_assoc _ _ _, own,
    Key.reads_write known, merges fun rest => ?_⟩
  simp only [mergeNested, ↓reduceIte, contents rest]

/-- Every message is appended by a record of its own. -/
theorem Faithful.merges_repeated (faithful : schema.Faithful depth canonical) {number : Nat}
    (known : Key.IsNumber number) {budget : Nat} (enough : depth < budget) (before : List M)
    {message : M} (fits : schema.nestedSize number message < 2 ^ 64) :
    (schema.repeated number).Merges budget before (schema.writeNested number message)
      (before ++ [canonical message]) := by
  refine faithful.merges_nested known (List.mem_singleton_self number) enough fits ?_
  intro payload reads rest
  simp only [Schema.repeated, reads rest]

theorem Faithful.run_repeated (faithful : schema.Faithful depth canonical) {number : Nat}
    (known : Key.IsNumber number) {budget : Nat} (enough : depth < budget) {messages : List M}
    (fits : (messages.map (schema.nestedSize number)).sum < 2 ^ 64) :
    Run ((schema.repeated number).Merges budget) [] (messages.map (schema.writeNested number))
      (messages.map canonical) := by
  refine Run.ofValues (schema.writeNested number) (List.map canonical) messages ?_ []
  intro before message member
  rw [List.map_append]
  exact faithful.merges_repeated known enough _ (size_lt_of_mem fits member)

theorem Faithful.repeated (faithful : schema.Faithful depth canonical) {number : Nat}
    (known : Key.IsNumber number) :
    (schema.repeated number).Faithful (depth + 1) (List.map canonical) where
  length_write fits :=
    length_flatMap_write fun _ member =>
      faithful.length_writeNested known (size_lt_of_mem fits member)
  chain_write enough fits := Chain.ofRun (faithful.run_repeated known enough fits)
  write_canonical messages := by
    simp only [Schema.repeated, List.flatMap_map, faithful.writeNested_canonical]
  size_canonical messages := by
    simp only [Schema.repeated, List.map_map, Function.comp_def, faithful.nestedSize_canonical]

/-- Messages that lose nothing are a field that loses nothing. -/
theorem Faithful.repeated_id (faithful : schema.Faithful depth id) {number : Nat}
    (known : Key.IsNumber number) : (schema.repeated number).Faithful (depth + 1) id := by
  have messages := faithful.repeated known
  rwa [List.map_id_fun] at messages

theorem Faithful.optional (faithful : schema.Faithful depth canonical) {number : Nat}
    (known : Key.IsNumber number) :
    (schema.optional number).Faithful (depth + 1) (Option.map canonical) where
  length_write {message} fits := by
    cases message with
    | none => rfl
    | some message => exact faithful.length_writeNested known fits
  chain_write {budget message} enough fits := by
    cases message with
    | none => exact .done none
    | some message =>
        refine .single (faithful.merges_nested known (List.mem_singleton_self number) enough
          fits fun reads rest => ?_)
        simp only [Schema.optional, Option.getD_none, reads rest, Option.map_some]
  write_canonical message := by
    cases message with
    | none => rfl
    | some message => exact faithful.writeNested_canonical number message
  size_canonical message := by
    cases message with
    | none => rfl
    | some message => exact faithful.nestedSize_canonical number message

theorem Faithful.optional_id (faithful : schema.Faithful depth id) {number : Nat}
    (known : Key.IsNumber number) : (schema.optional number).Faithful (depth + 1) id := by
  have message := faithful.optional known
  rwa [Option.map_id_fun] at message

end Nested
end Schema
end RemoteWrite.Wire
