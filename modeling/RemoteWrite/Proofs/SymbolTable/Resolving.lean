import RemoteWrite.Proofs.SymbolTable.Session

/-!
Contract: labels are read back from their references.

Owns:
- the resolving of references that all have a symbol, whatever the buffer held
  before;
- that labels survive interning, also when much else is interned after them.

Does not own: references without a symbol.
-/

namespace RemoteWrite

/-! ## Buffers -/

/-- Overwriting a place of a buffer, or the one right after its end, is
appending to what is in front of that place. -/
theorem toList_setOrPush (buffer : Array String) (index : Nat) (symbol : String) :
    (if bound : index < buffer.size then buffer.set index symbol bound
      else buffer.push symbol).toList =
        buffer.toList.take index ++ symbol :: buffer.toList.drop (index + 1) := by
  by_cases bound : index < buffer.size
  · rw [dif_pos bound, Array.toList_set]
    exact List.set_eq_take_append_cons_drop.trans (if_pos bound)
  · have atEnd : buffer.toList.length ≤ index := Nat.le_of_not_lt bound
    rw [dif_neg bound, Array.toList_push, List.take_of_length_le atEnd,
      List.drop_eq_nil_of_le (Nat.le_succ_of_le atEnd)]

/-- The symbols are written over the buffer from the given place on, and what
follows them stays. -/
theorem resolveInto_of_resolves {symbols : Array String} {references : List UInt32}
    {texts : List String}
    (resolves : references.map (fun reference => symbols[reference.toNat]?) = texts.map some)
    {buffer : Array String} {index : Nat} (within : index ≤ buffer.size) :
    resolveInto symbols buffer index references =
      .ok (buffer.toList.take index ++ texts ++
        buffer.toList.drop (index + texts.length)).toArray := by
  induction references generalizing texts buffer index with
  | nil =>
      have none : texts = [] := List.map_eq_nil_iff.mp resolves.symm
      rw [none, resolveInto, List.append_nil, List.length_nil, Nat.add_zero,
        List.take_append_drop]
  | cons reference rest inductionHypothesis =>
      cases texts with
      | nil => cases resolves
      | cons text others =>
          rw [List.map_cons, List.map_cons] at resolves
          obtain ⟨found, followed⟩ := List.cons_eq_cons.mp resolves
          have written := toList_setOrPush buffer index text
          have front : (buffer.toList.take index).length = index := List.length_take_of_le within
          simp only [resolveInto, found]
          generalize (if bound : index < buffer.size then buffer.set index text bound
            else buffer.push text) = next at written ⊢
          have reaches : index + 1 ≤ next.size := by
            rw [← Array.length_toList, written, List.length_append, front, List.length_cons]
            omega
          have before : next.toList.take (index + 1) = buffer.toList.take index ++ [text] := by
            rw [written, List.take_append, front, Nat.add_sub_cancel_left,
              List.take_of_length_le (by omega)]
            rfl
          have after : next.toList.drop (index + 1 + others.length) =
              buffer.toList.drop (index + (text :: others).length) := by
            have beyond : index + 1 + others.length - index = others.length + 1 := by omega
            have same : index + (text :: others).length = index + 1 + others.length := by
              rw [List.length_cons]
              omega
            rw [written, List.drop_append, front, List.drop_eq_nil_of_le (by omega), beyond, same,
              List.drop_succ_cons, List.drop_drop, List.nil_append]
          rw [inductionHypothesis followed reaches, before, after, List.append_assoc,
            List.append_assoc, List.append_assoc]
          rfl

/-- References that all have a symbol are resolved, one after the other. A
buffer makes no difference, whether it is longer or shorter. -/
theorem desymbolizeLabels_of_resolves {symbols : Array String} {references : List UInt32}
    {texts : List String} (pairs : references.length % 2 = 0)
    (resolves : references.map (fun reference => symbols[reference.toNat]?) = texts.map some)
    (buffer : Array String) :
    desymbolizeLabels references symbols buffer = .ok texts.toArray := by
  have count : references.length = texts.length := by
    simpa only [List.length_map] using congrArg List.length resolves
  have cut : (buffer.take references.length).toList.drop texts.length = [] := by
    refine List.drop_eq_nil_of_le ?_
    rw [Array.length_toList, Array.take_eq_extract, Array.size_extract]
    omega
  rw [desymbolizeLabels, if_pos pairs, resolveInto_of_resolves resolves (Nat.zero_le _),
    List.take_zero, List.nil_append, Nat.zero_add, cut, List.append_nil]

/-! ## Labels -/

namespace SymbolTable

/-- In every table that goes on from the one with the labels, the references
stand for the labels. -/
theorem Records.resolves {table last : SymbolTable} {texts more labels : List String}
    (records : table.Records texts) (recorded : last.Records more)
    (continued : texts ++ labels <+: more) (fits : last.symbols.size ≤ 2 ^ 32) :
    (table.symbolizeLabels labels).1.map (fun reference => last.symbols[reference.toNat]?) =
      (paired labels).map some := by
  rw [(records.symbolizeLabels labels).1, List.map_map]
  refine List.map_congr_left fun text member => ?_
  have known : text ∈ "" :: (texts ++ labels) := by
    rcases List.mem_cons.mp (mem_paired member) with empty | label
    · rw [empty]
      exact List.mem_cons_self
    · exact List.mem_cons_of_mem _ (List.mem_append_right _ label)
  exact recorded.getElem?_reference continued fits known

namespace Session

/-- Labels are interned in any table, which then goes on. There is a reference
for every name and every value. As long as references reach all symbols,
resolving them gives the labels back, with the empty text for a value that is
missing, whatever the buffers held. -/
theorem desymbolize_symbolizeLabels (operations later : List Operation) (labels : List String)
    (references : Array UInt32) (texts : Array String)
    (continued : ∀ operation ∈ later, operation.continues = true) :
    let interned := (run operations).table.symbolizeLabelsInto labels references
    let last := (run (operations ++ .symbolizeLabels labels references :: later)).table
    interned.1.size = 2 * ((labels.length + 1) / 2) ∧
      (last.symbols.size ≤ 2 ^ 32 →
        desymbolizeLabels interned.1.toList last.symbols texts =
          .ok (labels ++ if labels.length % 2 = 1 then [""] else []).toArray) := by
  intro interned last
  have records := (refines_run operations).table
  have listed : interned.1.toList = ((run operations).table.symbolizeLabels labels).1 := by
    show ((run operations).table.symbolizeLabelsInto labels references).1.toList = _
    rw [symbolizeLabelsInto_eq]
  have count : interned.1.toList.length = 2 * ((labels.length + 1) / 2) := by
    rw [listed, (records.symbolizeLabels labels).1, List.length_map, length_paired]
  refine ⟨by rw [← Array.length_toList, count], fun fits => ?_⟩
  have begun := History.prefix_run operations (.symbolizeLabels labels references) continued
  refine desymbolizeLabels_of_resolves (by omega) ?_ texts
  rw [listed]
  exact records.resolves (refines_run _).table begun fits

/-- Three labels with a repeated name and without the last value, among texts
that the table knew before and texts that came later. Both buffers hold
something else, one of them more than the result. -/
theorem desymbolize_symbolizeLabels_trailing :
    let before : List Operation := [.symbolize "api", .reset, .symbolizeLabels ["zone", "api"] #[]]
    let labels := ["job", "api", "job"]
    let later : List Operation :=
      [.symbolize "pod", .save, .symbolizeLabels ["job", "batch", ""] #[5]]
    let texts := #["old", "old", "old", "old", "old"]
    let whole := before ++ .symbolizeLabels labels #[7, 7] :: later
    let interned := (run before).table.symbolizeLabelsInto labels #[7, 7]
    (run whole).table.symbols.toList = ["", "zone", "api", "job", "pod", "batch"] ∧
      (run whole).table.symbols.size ≤ 2 ^ 32 ∧ interned.1.size = 4 ∧
      desymbolizeLabels interned.1.toList (run whole).table.symbols texts =
        .ok #["job", "api", "job", ""] := by
  intro before labels later texts whole interned
  have symbols : (run whole).table.symbols.toList = ["", "zone", "api", "job", "pod", "batch"] :=
    (refines_run whole).table.symbols.trans (by decide)
  have fits : (run whole).table.symbols.size ≤ 2 ^ 32 := by
    rw [← Array.length_toList, symbols]
    decide
  obtain ⟨count, restored⟩ :=
    desymbolize_symbolizeLabels before later labels #[7, 7] texts (by decide)
  exact ⟨symbols, fits, count.trans (by decide), (restored fits).trans (congrArg _ (by decide))⟩

end Session
end SymbolTable
end RemoteWrite
