import Mathlib.Data.List.Pairwise
import RemoteWrite.Proofs.Wire.Grammar
import RemoteWrite.Proofs.Wire.Schema
import RemoteWrite.Proofs.Wire.Skipping

/-!
Contract: all bytes that denote a message are read as that message.

The records of one field are a run of its own, from the default of the field to
the value that they denote. As fields are apart, the runs of all fields stay
what they are when their records are interleaved, and when records that are
skipped stand between them.

Owns:
- skipping values that are not declared;
- scalars and field forms that accept a grammar;
- interleaved records, and schemas that accept a grammar.

Does not own: the grammars of particular messages.
-/

namespace RemoteWrite.Wire

/-! ## Keys -/

theorem Record.reads_key (record : Record) : Reads Key.read record.keyBytes record.key :=
  Key.reads_isVarint record.isNumber record.isKey

/-! ## Values that are not declared -/

theorem IsWireValue.notEnd {groups : Nat} {key : Key} {bytes : Bytes}
    (isValue : IsWireValue groups key bytes) : key.wireType ≠ .endGroup := by
  cases isValue <;> exact nofun

mutual

theorem IsWireValue.skips : ∀ {groups : Nat} {key : Key} {bytes : Bytes},
    IsWireValue groups key bytes → Key.IsNumber key.number → ∀ {budget : Nat}, groups ≤ budget →
      Skips (skipField (budget + 1) key) bytes
  | _, _, _, .varint isVarint, _, _, _ => skips_varint isVarint.reads
  | _, _, _, .sixtyFourBit length, _, _, _ => skips_sixtyFourBit length
  | _, _, _, .lengthDelimited isLength, _, _, _ =>
    skips_lengthDelimited isLength.reads isLength.toNat
  | _, _, _, .startGroup isGroup, isNumber, _, enough =>
    skips_startGroup (isGroup.skips isNumber enough)
  | _, _, _, .thirtyTwoBit length, _, _, _ => skips_thirtyTwoBit length

/-- The fields of a group have one less in their budget than the group. -/
theorem IsGroup.skips : ∀ {groups number : Nat} {bytes : Bytes}, IsGroup groups number bytes →
    Key.IsNumber number → ∀ {budget : Nat}, groups < budget →
      Skips (skipGroup (skipField budget) number) bytes
  | _, _, _, .close isKey, isNumber, _, _ =>
    skips_groupEnd (Key.reads_isVarint isNumber isKey)
  | _, _, _, .next record isValue others, isNumber, _ + 1, enough =>
    skips_groupField record.reads_key isValue.notEnd
      (isValue.skips record.isNumber (Nat.le_of_lt_succ enough)) (others.skips isNumber enough)

end

/-! ## Scalars -/

/-- What denotes a value is read as the value. -/
structure Scalar.Accepts {α : Type} (scalar : Scalar α) (grammar : ScalarGrammar α) : Prop where
  wireType : grammar.wireType = scalar.wireType
  ne_nil : ∀ {value bytes}, grammar.Denotes value bytes → bytes ≠ []
  reads : ∀ {value bytes}, grammar.Denotes value bytes → Reads scalar.read bytes value

namespace Scalar

theorem ofVarint_accepts {α : Type} {toNumber : α → Nat} {ofNumber : UInt64 → α}
    (lawful : (ofVarint toNumber ofNumber).Lawful) :
    (ofVarint toNumber ofNumber).Accepts (.varint toNumber) where
  wireType := rfl
  ne_nil := IsVarint.ne_nil
  reads {value bytes} isVarint rest := by
    -- The number of a padded varint is that of the shortest one, which the law is about.
    have bound : toNumber value < 2 ^ 64 := isVarint.2.2
    have size : (ofVarint toNumber ofNumber).size value < 2 ^ 64 := by
      have length := length_varint_le bound
      rw [length_varint_eq bound] at length
      exact Nat.lt_of_le_of_lt length (by decide)
    have shortest := lawful.reads_write size []
    simp only [ofVarint, reads_varint bound [], Except.ok.injEq, Prod.mk.injEq, and_true]
      at shortest
    simp only [ofVarint, isVarint.reads rest, shortest]

theorem double_accepts : double.Accepts .double where
  wireType := rfl
  ne_nil {value _} := by
    rintro rfl
    exact double_lawful.write_ne_nil value
  reads := by
    rintro value _ rfl
    have size : double.size value < 2 ^ 64 := show 8 < 2 ^ 64 by decide
    exact double_lawful.reads_write size

theorem text_accepts : text.Accepts .text where
  wireType := rfl
  ne_nil := by
    rintro value _ ⟨lengthBytes, rfl, isLength⟩
    exact List.append_ne_nil_of_left_ne_nil isLength.ne_nil _
  reads := by
    rintro value _ ⟨lengthBytes, rfl, isLength⟩
    exact reads_text isLength

end Scalar

/-! ## Records of a number -/

section Filter

variable {numbers : List Nat} {record : Record} {records : List Record}

theorem filter_own (own : record.number ∈ numbers) :
    (record :: records).filter (fun record => numbers.contains record.number) =
      record :: records.filter fun record => numbers.contains record.number := by
  have contained : numbers.contains record.number = true := List.contains_iff_mem.mpr own
  rw [List.filter_cons, if_pos contained]

theorem filter_foreign (foreign : record.number ∉ numbers) :
    (record :: records).filter (fun record => numbers.contains record.number) =
      records.filter fun record => numbers.contains record.number := by
  have missing : ¬ numbers.contains record.number = true :=
    fun contained => foreign (List.contains_iff_mem.mp contained)
  rw [List.filter_cons, if_neg missing]

end Filter

/-! ## Fields -/

/-- A record is merged into the value of a field so far. -/
def FieldForm.MergesRecord {α : Type} (form : FieldForm α) (budget : Nat) (value : α)
    (record : Record) (merged : α) : Prop :=
  Reads (form.merge budget record.key value) record.payload merged

/-- The records that denote a value are merged into it, one after the other. The budget allows for
the value with messages that are nested `depth` deep. -/
structure FieldForm.Accepts {α : Type} (form : FieldForm α) (depth : Nat)
    (grammar : FieldGrammar α) : Prop where
  numbers : grammar.numbers = form.numbers
  run : ∀ {budget value records}, depth + groupDepth < budget → grammar.Denotes value records →
    Run (form.MergesRecord budget) form.default records value

namespace Scalar

variable {α : Type} {scalar : Scalar α} {grammar : ScalarGrammar α}

theorem Accepts.reads_record (accepts : scalar.Accepts grammar) {value : α} {record : Record}
    (isRecord : grammar.IsRecord value record) :
    Reads (scalar.readAs record.key.wireType) record.payload value := by
  obtain ⟨wireType, denotes⟩ := isRecord
  have same : record.key.wireType = scalar.wireType := wireType.trans accepts.wireType
  rw [same]
  exact reads_readAs (accepts.reads denotes)

/-- The encodings of a packed record are read one by one. -/
theorem Accepts.reads_packed (accepts : scalar.Accepts grammar) {values : List α}
    {lengthBytes : Bytes} {encodings : List Bytes}
    (isLength : IsVarint encodings.flatten.length lengthBytes)
    (denotes : List.Forall₂ grammar.Denotes values encodings) :
    Reads (readDelimited scalar.collect []) (lengthBytes ++ encodings.flatten) values.reverse := by
  refine reads_delimited isLength.reads isLength.toNat (Chain.ofRun ?_)
  refine Run.ofForall₂ List.reverse denotes ?_ []
  intro before value encoding denotes
  refine ⟨accepts.ne_nil denotes, fun rest => ?_⟩
  simp only [collect, accepts.reads denotes rest, List.reverse_append, List.reverse_singleton,
    List.singleton_append]

end Scalar

namespace FieldForm

variable {α β γ : Type} {scalar : Scalar α} {grammar : ScalarGrammar α} {number depth : Nat}

theorem plain_accepts (accepts : scalar.Accepts grammar) {default : α} {omitted : α → Bool} :
    (plain scalar number default omitted).Accepts depth (.plain grammar number default) where
  numbers := rfl
  run {budget value records} _ denotes := by
    rcases denotes with ⟨rfl, rfl⟩ | ⟨record, rfl, isRecord⟩
    · exact .done value
    · exact .next (accepts.reads_record isRecord) (.done value)

/-- The values of a record go behind those of the records before it, whichever form it has. -/
theorem packed_accepts (accepts : scalar.Accepts grammar)
    (notDelimited : scalar.wireType ≠ .lengthDelimited) :
    (packed scalar number).Accepts depth (.packable grammar number) where
  numbers := rfl
  run {budget values records} _ denotes := by
    obtain ⟨parts, rfl, isParts⟩ := denotes
    refine Run.ofForall₂ List.flatten isParts ?_ []
    intro before part record isPart rest
    rw [List.flatten_append, List.flatten_singleton]
    cases isPart with
    | single isRecord =>
        have single : record.key.wireType ≠ .lengthDelimited := by
          rw [show record.key.wireType = scalar.wireType from isRecord.1.trans accepts.wireType]
          exact notDelimited
        simp only [packed, single, ↓reduceIte, accepts.reads_record isRecord rest]
    | packed delimited payload isLength denotes =>
        have delimited : record.key.wireType = .lengthDelimited := delimited
        simp only [packed, delimited, ↓reduceIte, payload,
          accepts.reads_packed isLength denotes rest, List.reverse_reverse]

theorem repeated_accepts (accepts : scalar.Accepts grammar) :
    (repeated scalar number).Accepts depth (.repeated grammar number) where
  numbers := rfl
  run {budget values records} _ denotes := by
    refine Run.ofForall₂ id denotes ?_ []
    intro before value record isRecord rest
    simp only [repeated, accepts.reads_record isRecord rest, id_eq]

theorem oneOf_accepts {second : Scalar β} {secondGrammar : ScalarGrammar β}
    (accepts : scalar.Accepts grammar) (secondAccepts : second.Accepts secondGrammar)
    {secondNumber : Nat} (different : secondNumber ≠ number) {ofEither : Either α β → γ}
    {toEither : γ → Either α β} (inverse : ∀ value, ofEither (toEither value) = value) :
    (oneOf scalar number second secondNumber ofEither toEither).Accepts depth
      (.oneOf grammar number secondGrammar secondNumber toEither) where
  numbers := rfl
  run {budget value records} _ denotes := by
    cases value with
    | none =>
        obtain rfl : records = [] := denotes
        exact .done none
    | some value =>
        obtain ⟨record, rfl, isChoice⟩ := denotes
        refine .next (fun rest => ?_) (.done (some value))
        have kept := inverse value
        cases choice : toEither value with
        | first chosen =>
            simp only [choice] at isChoice kept
            obtain ⟨own, isRecord⟩ := isChoice
            have own : record.key.number = number := own
            simp only [oneOf, own, ↓reduceIte, accepts.reads_record isRecord rest, kept]
        | second chosen =>
            simp only [choice] at isChoice kept
            obtain ⟨own, isRecord⟩ := isChoice
            have notFirst : record.key.number ≠ number := by
              rw [show record.key.number = secondNumber from own]
              exact different
            simp only [oneOf, notFirst, ↓reduceIte, secondAccepts.reads_record isRecord rest, kept]

end FieldForm

/-- More nesting is allowed than there is. -/
theorem FieldForm.Accepts.mono {α : Type} {form : FieldForm α} {depth deeper : Nat}
    {grammar : FieldGrammar α} (accepts : form.Accepts depth grammar) (le : depth ≤ deeper) :
    form.Accepts deeper grammar where
  numbers := accepts.numbers
  run enough := accepts.run (by omega)

/-! ## Messages -/

theorem exists_of_mem_left {α β : Type*} {related : α → β → Prop} {left : List α} {right : List β}
    (all : List.Forall₂ related left right) {item : α} (member : item ∈ left) :
    ∃ other ∈ right, related item other := by
  induction all with
  | nil => contradiction
  | cons first _ inductionHypothesis =>
      rcases List.mem_cons.mp member with rfl | later
      · exact ⟨_, List.mem_cons_self, first⟩
      · obtain ⟨other, otherMember, holds⟩ := inductionHypothesis later
        exact ⟨other, List.mem_cons_of_mem _ otherMember, holds⟩

/-- A field of a message holds what the records of the part denote. -/
structure Field.Accepts {M : Type} (field : Field M) (depth : Nat) (part : MessagePart M) :
    Prop where
  numbers : part.grammar.numbers = field.form.numbers
  run : ∀ {budget message records}, depth + groupDepth < budget →
    part.grammar.Denotes (part.get message) records →
      Run (field.form.MergesRecord budget) field.form.default records (field.get message)

theorem FieldForm.Accepts.field {M : Type} {field : Field M} {depth : Nat}
    {grammar : FieldGrammar field.Value} (accepts : field.form.Accepts depth grammar) :
    field.Accepts depth ⟨field.get, grammar⟩ where
  numbers := accepts.numbers
  run := accepts.run

instance {M : Type} : Std.Symm (Field.Apart (M := M)) where
  symm _ _ apart := ⟨apart.2, apart.1⟩

namespace Schema

variable {M : Type} {schema : Schema M} {budget : Nat}

/-- A message is made up of its fields. -/
theorem eq_of_fields {first second : M}
    (same : ∀ field ∈ schema.fields, field.get first = field.get second) : first = second := by
  rw [← schema.rebuild first, ← schema.rebuild second]
  refine List.foldl_ext _ _ _ ?_
  intro built field member
  rw [same field member]

theorem of_field?_eq_some {number : Nat} {field : Field M}
    (declared : schema.field? number = some field) :
    field ∈ schema.fields ∧ number ∈ field.form.numbers := by
  have own : field.form.numbers.contains number = true := by
    unfold field? at declared
    simpa using List.find?_some declared
  exact ⟨List.mem_of_find?_eq_some declared, List.contains_iff_mem.mp own⟩

theorem steps_of_record {record : Record} {field : Field M}
    (declared : schema.field? record.number = some field) {message : M} {value : field.Value}
    (merges : field.form.MergesRecord budget (field.get message) record value) :
    Steps (schema.mergeNext budget) message record.bytes (field.set value message) := by
  obtain ⟨member, own⟩ := of_field?_eq_some declared
  have isRecord : field.form.Merges budget (field.get message) record.bytes value :=
    ⟨record.key, record.keyBytes, record.payload, rfl, own, record.reads_key, merges⟩
  have steps := steps_of_merges member isRecord message
  rwa [field.set_get] at steps

theorem steps_of_skips {record : Record} (undeclared : schema.field? record.number = none)
    (skips : Skips (skipField budget record.key) record.payload) (message : M) :
    Steps (schema.mergeNext budget) message record.bytes message := by
  refine ⟨List.append_ne_nil_of_left_ne_nil (reads_key_ne_nil record.reads_key) _, fun rest => ?_⟩
  have undeclared : schema.field? record.key.number = none := undeclared
  rw [Record.bytes, List.append_assoc, mergeNext, record.reads_key (record.payload ++ rest)]
  simp only [mergeRecord, undeclared, skips rest]

/-- The records of every field lead from what it holds in one message to what it holds in another
one. -/
def FieldsRun (schema : Schema M) (budget : Nat) (state : M) (records : List Record) (target : M) :
    Prop :=
  ∀ field ∈ schema.fields, Run (field.form.MergesRecord budget) (field.get state)
    (records.filter fun record => field.form.numbers.contains record.number) (field.get target)

namespace FieldsRun

variable {state target : M} {record : Record} {records : List Record}

theorem eq_of_nil (runs : schema.FieldsRun budget state [] target) : state = target :=
  eq_of_fields fun field member => (runs field member).eq_of_nil

/-- A record that belongs to no field is in none of the runs. -/
theorem of_undeclared (undeclared : schema.field? record.number = none)
    (runs : schema.FieldsRun budget state (record :: records) target) :
    schema.FieldsRun budget state records target := by
  intro field member
  have foreign : ¬ record.number ∈ field.form.numbers := by
    intro own
    rw [field?_eq member own] at undeclared
    contradiction
  have run := runs field member
  rwa [filter_foreign foreign] at run

/-- A record of a field is the first one in the run of that field, and in none of the others. -/
theorem of_declared {field : Field M} (declared : schema.field? record.number = some field)
    (runs : schema.FieldsRun budget state (record :: records) target) :
    ∃ value, field.form.MergesRecord budget (field.get state) record value ∧
      schema.FieldsRun budget (field.set value state) records target := by
  obtain ⟨member, own⟩ := of_field?_eq_some declared
  have run := runs field member
  rw [filter_own own] at run
  obtain ⟨value, merges, others⟩ := run.of_cons
  refine ⟨value, merges, fun other otherMember => ?_⟩
  by_cases otherOwn : record.number ∈ other.form.numbers
  · -- Numbers are not shared, so this is the field itself.
    have same := field?_eq otherMember otherOwn
    rw [declared, Option.some.injEq] at same
    subst same
    rwa [field.get_set]
  · have different : field ≠ other := by
      rintro rfl
      exact otherOwn own
    have apart : field.Apart other := schema.apart.forall member otherMember different
    have otherRun := runs other otherMember
    rw [filter_foreign otherOwn] at otherRun
    rwa [apart.1]

end FieldsRun

/-- Records of several fields, with others in between that are skipped, lead to the message that
the records of each field lead to. -/
theorem chain_records {state target : M} {records : List Record}
    (runs : schema.FieldsRun budget state records target)
    (skips : ∀ record ∈ records, schema.field? record.number = none →
      Skips (skipField budget record.key) record.payload) :
    Chain (Steps (schema.mergeNext budget)) state (records.flatMap Record.bytes) target := by
  induction records generalizing state with
  | nil =>
      rw [runs.eq_of_nil]
      exact .done target
  | cons record records inductionHypothesis =>
      have laterSkips := fun later member => skips later (List.mem_cons_of_mem record member)
      cases declared : schema.field? record.number with
      | none =>
          have step := steps_of_skips declared (skips record List.mem_cons_self declared) state
          exact .next step (inductionHypothesis (runs.of_undeclared declared) laterSkips)
      | some field =>
          obtain ⟨value, merges, later⟩ := runs.of_declared declared
          have step := steps_of_record declared merges
          exact .next step (inductionHypothesis later laterSkips)

/-! ## Schemas -/

/-- What denotes a message is a chain of records that lead to it. The budget allows for messages
that are nested `depth` deep, with groups in the innermost one. -/
structure Accepts (schema : Schema M) (depth : Nat) (parts : List (MessagePart M)) : Prop where
  chain : ∀ {budget message bytes}, depth + groupDepth < budget → Denotes parts message bytes →
    Chain (Steps (schema.mergeNext budget)) schema.empty bytes message

/-- A schema accepts a grammar if each of its fields accepts its part of it. -/
theorem accepts_of_fields {depth : Nat} {parts : List (MessagePart M)}
    (fields : List.Forall₂ (fun field part => field.Accepts depth part) schema.fields parts) :
    schema.Accepts depth parts := by
  constructor
  rintro budget message _ enough ⟨records, rfl, isMessage⟩
  refine chain_records ?runs ?skips
  case runs =>
    intro field member
    obtain ⟨part, partMember, accepts⟩ := exists_of_mem_left fields member
    have denotes := isMessage.declared part partMember
    rw [accepts.numbers] at denotes
    rw [schema.get_empty field member]
    exact accepts.run enough denotes
  case skips =>
    intro record member undeclared
    rcases isMessage.undeclared record member with ⟨part, partMember, own⟩ | isValue
    · obtain ⟨field, fieldMember, accepts⟩ := exists_of_mem_left fields.flip partMember
      rw [accepts.numbers] at own
      rw [field?_eq fieldMember own] at undeclared
      contradiction
    · obtain ⟨inner, rfl⟩ : ∃ inner, budget = inner + 1 := ⟨budget - 1, by omega⟩
      exact isValue.skips record.isNumber (by omega)

variable {depth : Nat} {parts : List (MessagePart M)}

theorem Accepts.decode (accepts : schema.Accepts depth parts)
    (shallow : depth + groupDepth < recursionLimit) {message : M} {bytes : Bytes}
    (denotes : Denotes parts message bytes) : schema.decode bytes = .ok message :=
  decode_chain (accepts.chain shallow denotes)

theorem Accepts.reads_nested (accepts : schema.Accepts depth parts)
    (enough : depth + 1 + groupDepth < budget) {message : M} {record : Record}
    (isNested : IsNested (Denotes parts) message record) :
    Reads (schema.mergeNested budget record.key.wireType schema.empty) record.payload message := by
  obtain ⟨wireType, lengthBytes, bytes, payload, isLength, denotes⟩ := isNested
  have delimited : record.key.wireType = .lengthDelimited := wireType
  obtain ⟨inner, rfl⟩ : ∃ inner, budget = inner + 1 := ⟨budget - 1, by omega⟩
  have innerEnough : depth + groupDepth < inner := by omega
  have contents := accepts.chain innerEnough denotes
  intro rest
  rw [delimited, payload]
  simp only [mergeNested, ↓reduceIte, reads_delimited isLength.reads isLength.toNat contents rest]

theorem Accepts.repeated (accepts : schema.Accepts depth parts) {number : Nat} :
    (schema.repeated number).Accepts (depth + 1) (.messages (Denotes parts) number) where
  numbers := rfl
  run {budget messages records} enough denotes := by
    refine Run.ofForall₂ id denotes ?_ []
    intro before message record isNested rest
    simp only [Schema.repeated, accepts.reads_nested enough isNested rest, id_eq]

theorem Accepts.optional (accepts : schema.Accepts depth parts) {number : Nat} :
    (schema.optional number).Accepts (depth + 1) (.optional (Denotes parts) number) where
  numbers := rfl
  run {budget message records} enough denotes := by
    cases message with
    | none =>
        obtain rfl : records = [] := denotes
        exact .done none
    | some message =>
        obtain ⟨record, rfl, isNested⟩ := denotes
        refine .next (fun rest => ?_) (.done (some message))
        simp only [Schema.optional, Option.getD_none, accepts.reads_nested enough isNested rest]

end Schema
end RemoteWrite.Wire
