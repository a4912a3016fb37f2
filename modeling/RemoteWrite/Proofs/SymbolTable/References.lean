import RemoteWrite.Proofs.SymbolTable.Resolving

/-!
Contract: what a list of references stands for, if anything.

References come from a sender and may be any numbers.

Owns:
- the first reference without a symbol;
- the outcome of resolving for every list of references, every list of symbols,
  and every buffer;
- that a table which knows the labels of references interns them as these
  references, and is left as it was.

Does not own: labels that are new to a table.
-/

namespace RemoteWrite

/-! ## Outcomes -/

/-- The reference has no symbol, and all in front of it have one. -/
def IsFirstStray (symbols : Array String) (references : List UInt32) (reference : UInt32) : Prop :=
  ∃ front rest, references = front ++ reference :: rest ∧
    (∀ other ∈ front, other.toNat < symbols.size) ∧ symbols.size ≤ reference.toNat

/-- What becomes of references: they do not come in pairs, one of them has no
symbol, or each stands for its symbol. -/
inductive Desymbolizes (symbols : Array String) (references : List UInt32) :
    Except DesymbolizeError (Array String) → Prop where
  | odd (single : references.length % 2 = 1) :
      Desymbolizes symbols references (.error (.oddCount references.length))
  | stray {reference : UInt32} (pairs : references.length % 2 = 0)
      (first : IsFirstStray symbols references reference) :
      Desymbolizes symbols references (.error (.outOfRange reference symbols.size))
  | resolved {labels : Array String} (pairs : references.length % 2 = 0)
      (resolves : references.map (fun reference => symbols[reference.toNat]?) =
        labels.toList.map some) :
      Desymbolizes symbols references (.ok labels)

variable {symbols : Array String} {references : List UInt32}

theorem IsFirstStray.cons {first reference : UInt32} (known : first.toNat < symbols.size)
    (stray : IsFirstStray symbols references reference) :
    IsFirstStray symbols (first :: references) reference := by
  obtain ⟨front, rest, rfl, before, unknown⟩ := stray
  exact ⟨first :: front, rest, rfl, List.forall_mem_cons.mpr ⟨known, before⟩, unknown⟩

/-- A list that has no first stray reference has none at all. -/
theorem isFirstStray_or_resolves (symbols : Array String) (references : List UInt32) :
    (∃ reference, IsFirstStray symbols references reference) ∨
      ∃ texts : List String,
        references.map (fun reference => symbols[reference.toNat]?) = texts.map some := by
  induction references with
  | nil => exact .inr ⟨[], rfl⟩
  | cons first rest inductionHypothesis =>
      by_cases known : first.toNat < symbols.size
      · rcases inductionHypothesis with ⟨reference, stray⟩ | ⟨texts, resolves⟩
        · exact .inl ⟨reference, stray.cons known⟩
        · refine .inr ⟨symbols[first.toNat] :: texts, ?_⟩
          rw [List.map_cons, List.map_cons, resolves, Array.getElem?_eq_getElem known]
      · exact .inl ⟨first, [], rest, rfl, nofun, Nat.le_of_not_lt known⟩

/-- What has been written when a stray reference is met is lost. -/
theorem resolveInto_of_isFirstStray {reference : UInt32}
    (stray : IsFirstStray symbols references reference) (buffer : Array String) (index : Nat) :
    resolveInto symbols buffer index references =
      .error (.outOfRange reference symbols.size) := by
  obtain ⟨front, rest, rfl, before, unknown⟩ := stray
  induction front generalizing buffer index with
  | nil =>
      have none : symbols[reference.toNat]? = none := Array.getElem?_eq_none unknown
      simp only [List.nil_append, resolveInto, none]
  | cons first front inductionHypothesis =>
      obtain ⟨known, others⟩ := List.forall_mem_cons.mp before
      have found := Array.getElem?_eq_getElem known
      simp only [List.cons_append, resolveInto, found]
      exact inductionHypothesis _ _ others

/-- The outcome follows the rules, whatever the buffer held. -/
theorem desymbolizeLabels_of_desymbolizes {outcome : Except DesymbolizeError (Array String)}
    (follows : Desymbolizes symbols references outcome) (buffer : Array String) :
    desymbolizeLabels references symbols buffer = outcome := by
  cases follows with
  | odd single => rw [desymbolizeLabels, if_neg (by omega)]
  | stray pairs first =>
      rw [desymbolizeLabels, if_pos pairs, resolveInto_of_isFirstStray first]
  | resolved pairs resolves => exact desymbolizeLabels_of_resolves pairs resolves buffer

theorem exists_desymbolizes (symbols : Array String) (references : List UInt32) :
    ∃ outcome, Desymbolizes symbols references outcome := by
  rcases Nat.mod_two_eq_zero_or_one references.length with pairs | single
  · rcases isFirstStray_or_resolves symbols references with ⟨reference, first⟩ | ⟨texts, resolves⟩
    · exact ⟨_, .stray pairs first⟩
    · exact ⟨.ok texts.toArray, .resolved pairs resolves⟩
  · exact ⟨_, .odd single⟩

/-- There is an outcome for all references, so no other follows the rules. -/
theorem desymbolizeLabels_eq_iff (references : List UInt32) (symbols buffer : Array String)
    (outcome : Except DesymbolizeError (Array String)) :
    desymbolizeLabels references symbols buffer = outcome ↔
      Desymbolizes symbols references outcome := by
  refine ⟨?_, fun follows => desymbolizeLabels_of_desymbolizes follows buffer⟩
  rintro rfl
  obtain ⟨outcome, follows⟩ := exists_desymbolizes symbols references
  rwa [desymbolizeLabels_of_desymbolizes follows]

/-- An odd number of references is refused first, whatever they are. Then the
first reference without a symbol is, together with the number of symbols. All
other references stand for their symbols in order, and nothing that a buffer
held is among them. -/
theorem desymbolizeLabels_outcomes (references : List UInt32) (symbols buffer : Array String) :
    let outcome := desymbolizeLabels references symbols buffer
    (∀ count, outcome = .error (.oddCount count) ↔
        references.length % 2 = 1 ∧ count = references.length) ∧
      (∀ reference count, outcome = .error (.outOfRange reference count) ↔
        references.length % 2 = 0 ∧ IsFirstStray symbols references reference ∧
          count = symbols.size) ∧
      (∀ labels, outcome = .ok labels ↔
        references.length % 2 = 0 ∧
          references.map (fun reference => symbols[reference.toNat]?) =
            labels.toList.map some) ∧
      ((∃ labels, outcome = .ok labels) ↔
        references.length % 2 = 0 ∧ ¬ ∃ reference, IsFirstStray symbols references reference) := by
  intro outcome
  have rules := desymbolizeLabels_eq_iff references symbols buffer
  refine ⟨fun count => ?_, fun reference count => ?_, fun labels => ?_, ?_⟩
  · rw [rules]
    constructor
    · intro follows
      cases follows with
      | odd single => exact ⟨single, rfl⟩
    · rintro ⟨single, rfl⟩
      exact .odd single
  · rw [rules]
    constructor
    · intro follows
      cases follows with
      | stray pairs first => exact ⟨pairs, first, rfl⟩
    · rintro ⟨pairs, first, rfl⟩
      exact .stray pairs first
  · rw [rules]
    constructor
    · intro follows
      cases follows with
      | resolved pairs resolves => exact ⟨pairs, resolves⟩
    · rintro ⟨pairs, resolves⟩
      exact .resolved pairs resolves
  · constructor
    · rintro ⟨labels, resolved⟩
      cases (rules _).mp resolved with
      | resolved pairs resolves =>
          refine ⟨pairs, fun ⟨reference, first⟩ => ?_⟩
          cases resolved.symm.trans ((rules _).mpr (.stray pairs first))
    · rintro ⟨pairs, noStray⟩
      obtain ⟨texts, resolves⟩ := (isFirstStray_or_resolves symbols references).resolve_left noStray
      exact ⟨texts.toArray, (rules _).mpr (.resolved pairs resolves)⟩

/-- Of two stray references in pairs the first one is reported. -/
example : desymbolizeLabels [0, 7, 1, 2] #["a"] #["left", "over"] =
    .error (.outOfRange 7 1) := by decide

/-! ## Known labels -/

namespace SymbolTable

variable {table : SymbolTable}

/-- A known text is not interned again. -/
theorem symbolize_of_references {symbol : String} {reference : UInt32}
    (known : table.references[symbol]? = some reference) :
    table.symbolize symbol = (reference, table) := by
  simp only [symbolize, known]

/-- Known labels are interned as the references that they have. -/
theorem symbolizeLabels_of_references {references : List UInt32} {labels : List String}
    (pairs : labels.length % 2 = 0)
    (known : labels.map (table.references[·]?) = references.map some) :
    table.symbolizeLabels labels = (references, table) := by
  match labels, references with
  | [], [] => rfl
  | [], _ :: _ => cases known
  | [_], _ => cases pairs
  | _ :: _ :: _, [] => cases known
  | _ :: _ :: _, [_] => cases congrArg (·.length) known
  | name :: value :: rest, nameRef :: valueRef :: others =>
      simp only [List.map_cons, List.cons.injEq] at known
      obtain ⟨knownName, knownValue, followed⟩ := known
      have pairsLeft : rest.length % 2 = 0 := by
        rw [List.length_cons, List.length_cons] at pairs
        omega
      simp only [symbolizeLabels, symbolize_of_references knownName,
        symbolize_of_references knownValue, symbolizeLabels_of_references pairsLeft followed]

/-- The symbols of references are interned as the same references. -/
theorem Records.symbolizeLabels_of_resolves {texts labels : List String}
    {references : List UInt32} (records : table.Records texts)
    (fits : table.symbols.size ≤ 2 ^ 32) (pairs : references.length % 2 = 0)
    (resolves : references.map (fun reference => table.symbols[reference.toNat]?) =
      labels.map some) :
    table.symbolizeLabels labels = (references, table) := by
  have count : references.length = labels.length := by
    simpa only [List.length_map] using congrArg List.length resolves
  refine symbolizeLabels_of_references (count ▸ pairs) ?_
  -- The reverse map is the inverse of the symbols, also with duplicate references.
  refine List.ext_getElem? fun index => ?_
  have place := congrArg (·[index]?) resolves
  simp only [List.getElem?_map] at place ⊢
  cases label : labels[index]? with
  | none =>
      rw [label, Option.map_none, Option.map_eq_none_iff] at place
      rw [place]
      rfl
  | some text =>
      rw [label, Option.map_some, Option.map_eq_some_iff] at place
      obtain ⟨reference, present, found⟩ := place
      rw [present, Option.map_some, Option.map_some,
        (records.references_iff fits text reference).mpr found]

namespace Session

/-- Whatever has been done with a table, references that all have a symbol in it
stand for labels, and interning these gives the references back and leaves the
table as it was. No buffer makes a difference. -/
theorem symbolizeLabels_desymbolize (operations : List Operation) (references : List UInt32)
    (texts : Array String) (buffer : Array UInt32) :
    let table := (run operations).table
    table.symbols.size ≤ 2 ^ 32 → references.length % 2 = 0 →
      (∀ reference ∈ references, reference.toNat < table.symbols.size) →
        ∃ labels, desymbolizeLabels references table.symbols texts = .ok labels ∧
          table.symbolizeLabelsInto labels.toList buffer = (references.toArray, table) := by
  intro table fits pairs known
  have noStray : ¬ ∃ reference, IsFirstStray table.symbols references reference := by
    rintro ⟨reference, front, rest, rfl, _, unknown⟩
    have inRange := known reference (List.mem_append_right _ List.mem_cons_self)
    exact Nat.not_lt_of_le unknown inRange
  obtain ⟨labels, resolves⟩ :=
    (isFirstStray_or_resolves table.symbols references).resolve_left noStray
  have interned : table.symbolizeLabels labels = (references, table) :=
    (refines_run operations).table.symbolizeLabels_of_resolves fits pairs resolves
  refine ⟨labels.toArray, desymbolizeLabels_of_resolves pairs resolves texts, ?_⟩
  rw [symbolizeLabelsInto_eq, interned]

/-- References in a table that was emptied and replaced, in any order, one of
them twice and one to the empty text. Both buffers hold something else. -/
theorem symbolizeLabels_desymbolize_repeated :
    let operations : List Operation := [.symbolizeLabels ["old", "job"] #[], .save, .reset,
      .symbolizeLabels ["zone", "a", "zone"] #[9], .symbolize "job"]
    let table := (run operations).table
    let references : List UInt32 := [3, 0, 1, 3]
    let texts := #["left", "over", "from", "longer", "labels"]
    table.symbols.toList = ["", "zone", "a", "job"] ∧ table.symbols.size ≤ 2 ^ 32 ∧
      references.length % 2 = 0 ∧
      (∀ reference ∈ references, reference.toNat < table.symbols.size) ∧
      desymbolizeLabels references table.symbols texts = .ok #["job", "", "zone", "job"] ∧
      table.symbolizeLabelsInto ["job", "", "zone", "job"] #[7] = (#[3, 0, 1, 3], table) := by
  intro operations table references texts
  have symbols : table.symbols.toList = ["", "zone", "a", "job"] :=
    (refines_run operations).table.symbols.trans (by decide)
  have count : table.symbols.size = 4 := by rw [← Array.length_toList, symbols]; rfl
  have fits : table.symbols.size ≤ 2 ^ 32 := by rw [count]; decide
  have known : ∀ reference ∈ references, reference.toNat < table.symbols.size := by
    rw [count]
    show ∀ reference ∈ [3, 0, 1, 3], UInt32.toNat reference < 4
    simp
  have resolved : desymbolizeLabels references table.symbols texts =
      .ok #["job", "", "zone", "job"] := by
    have listed : table.symbols = #["", "zone", "a", "job"] := Array.toList_inj.mp symbols
    rw [listed]
    exact desymbolizeLabels_of_resolves (by decide) (by decide) texts
  obtain ⟨labels, same, restored⟩ :=
    symbolizeLabels_desymbolize operations references texts #[7] fits (by decide) known
  cases resolved.symm.trans same
  exact ⟨symbols, fits, by decide, known, resolved, restored⟩

end Session
end SymbolTable
end RemoteWrite
