import Mathlib.Data.List.Induction
import RemoteWrite.SymbolTable

/-!
Contract: what a table holds is decided by the texts interned since it was
empty.

Owns:
- the symbols of a list of texts, and the position of each;
- the tables that record a list of texts, symbols and reverse map alike;
- what interning of single texts and of labels does to them.

Does not own: sequences of operations, or the resolving of references.
-/

namespace RemoteWrite.SymbolTable

/-! ## Symbols of texts -/

/-- The empty text and the given ones, each where it occurs first. -/
def symbolsOf (texts : List String) : List String := ("" :: texts).eraseDups

/-- Where a text stands among the symbols. -/
def position (texts : List String) (text : String) : Nat := (symbolsOf texts).idxOf text

theorem mem_symbolsOf {texts : List String} {text : String} :
    text ∈ symbolsOf texts ↔ text ∈ "" :: texts :=
  List.mem_eraseDups

/-- More texts add symbols at the end. -/
theorem symbolsOf_continued {texts more : List String} (continued : texts <+: more) :
    symbolsOf texts <+: symbolsOf more := by
  obtain ⟨rest, rfl⟩ := continued
  rw [symbolsOf, symbolsOf, ← List.cons_append, List.eraseDups_append]
  exact List.prefix_append _ _

/-- One more text is a new symbol unless it is known. -/
theorem symbolsOf_append_singleton (texts : List String) (text : String) :
    symbolsOf (texts ++ [text]) =
      if text ∈ "" :: texts then symbolsOf texts else symbolsOf texts ++ [text] := by
  rw [symbolsOf, ← List.cons_append, List.eraseDups_append, List.removeAll, List.filter_cons,
    List.filter_nil, List.elem_eq_mem]
  by_cases known : text ∈ "" :: texts
  · rw [if_pos known, decide_eq_true known, Bool.not_true, if_neg Bool.false_ne_true,
      List.eraseDups_nil, List.append_nil]
    rfl
  · rw [if_neg known, decide_eq_false known, Bool.not_false, if_pos rfl]
    rfl

theorem nodup_symbolsOf (texts : List String) : (symbolsOf texts).Nodup := by
  induction texts using List.reverseRecOn with
  | nil => decide
  | append_singleton texts text inductionHypothesis =>
      rw [symbolsOf_append_singleton]
      by_cases known : text ∈ "" :: texts
      · rwa [if_pos known]
      · rw [if_neg known]
        refine List.nodup_append.mpr ⟨inductionHypothesis, List.pairwise_singleton _ _, ?_⟩
        intro symbol member added isText same
        rw [same, List.mem_singleton.mp isText] at member
        exact known (mem_symbolsOf.mp member)

/-! ## Positions -/

theorem position_lt {texts : List String} {text : String} (known : text ∈ "" :: texts) :
    position texts text < (symbolsOf texts).length :=
  List.idxOf_lt_length_of_mem (mem_symbolsOf.mpr known)

theorem getElem?_position {texts : List String} {text : String} (known : text ∈ "" :: texts) :
    (symbolsOf texts)[position texts text]? = some text := by
  rw [List.getElem?_eq_getElem (position_lt known)]
  exact congrArg some (List.getElem_idxOf (position_lt known))

/-- A symbol stands at one position only. -/
theorem position_eq_of_getElem? {texts : List String} {text : String} {index : Nat}
    (found : (symbolsOf texts)[index]? = some text) : position texts text = index := by
  obtain ⟨inRange, rfl⟩ := List.getElem?_eq_some_iff.mp found
  exact (nodup_symbolsOf texts).idxOf_getElem index inRange

/-- A known text keeps its position when others follow. -/
theorem position_continued {texts more : List String} {text : String}
    (continued : texts <+: more) (known : text ∈ "" :: texts) :
    position more text = position texts text := by
  obtain ⟨added, symbols⟩ := symbolsOf_continued continued
  rw [position, ← symbols, List.idxOf_append, if_pos (mem_symbolsOf.mpr known)]
  rfl

@[simp]
theorem position_empty (texts : List String) : position texts "" = 0 := by
  rw [position, symbolsOf, List.eraseDups_cons, List.idxOf_cons_self]

/-- The empty text is the first symbol of every table. -/
theorem getElem?_symbolsOf_zero (texts : List String) : (symbolsOf texts)[0]? = some "" := by
  rw [← position_empty texts]
  exact getElem?_position List.mem_cons_self

/-- A symbol is found at its position also when others have followed. -/
theorem getElem?_position_continued {texts more : List String} {text : String}
    (continued : texts <+: more) (known : text ∈ "" :: texts) :
    (symbolsOf more)[position texts text]? = some text := by
  have stillKnown : text ∈ "" :: more := (List.prefix_cons_inj "").mpr continued |>.subset known
  rw [← position_continued continued known, getElem?_position stillKnown]

/-- References reach `2 ^ 32` symbols. -/
theorem toNat_position {texts : List String} {text : String} (known : text ∈ "" :: texts)
    (fits : (symbolsOf texts).length ≤ 2 ^ 32) :
    (UInt32.ofNat (position texts text)).toNat = position texts text :=
  UInt32.toNat_ofNat_of_lt' (Nat.lt_of_lt_of_le (position_lt known) fits)

/-- A new text stands at the end. -/
theorem position_append_singleton {texts : List String} {text : String}
    (new : text ∉ "" :: texts) :
    position (texts ++ [text]) text = (symbolsOf texts).length := by
  rw [position, symbolsOf_append_singleton, if_neg new, List.idxOf_append,
    if_neg (mt mem_symbolsOf.mp new), List.idxOf_cons_self, Nat.zero_add]

/-! ## Tables -/

/-- What the reverse map of a table that has interned the texts says. -/
def referenceOf? (texts : List String) (text : String) : Option UInt32 :=
  if text ∈ "" :: texts then some (UInt32.ofNat (position texts text)) else none

/-- The table is what interning the texts leaves of an empty one. -/
structure Records (table : SymbolTable) (texts : List String) : Prop where
  symbols : table.symbols.toList = symbolsOf texts
  references : ∀ text, table.references[text]? = referenceOf? texts text

variable {table : SymbolTable} {texts : List String}

theorem Records.size (records : table.Records texts) :
    table.symbols.size = (symbolsOf texts).length := by
  rw [← records.symbols, Array.length_toList]

theorem Records.getElem?_symbols (records : table.Records texts) (index : Nat) :
    table.symbols[index]? = (symbolsOf texts)[index]? := by
  rw [← records.symbols, Array.getElem?_toList]

/-- The reference of a known text stands for it in every table that goes on. -/
theorem Records.getElem?_reference {more : List String} {text : String}
    (recorded : table.Records more) (continued : texts <+: more)
    (fits : table.symbols.size ≤ 2 ^ 32) (known : text ∈ "" :: texts) :
    table.symbols[(UInt32.ofNat (position texts text)).toNat]? = some text := by
  have enough : (symbolsOf texts).length ≤ 2 ^ 32 :=
    Nat.le_trans (symbolsOf_continued continued).length_le (recorded.size ▸ fits)
  rw [toNat_position known enough, recorded.getElem?_symbols]
  exact getElem?_position_continued continued known

/-- The reverse map is the inverse of the symbols. -/
theorem Records.references_iff (records : table.Records texts)
    (fits : table.symbols.size ≤ 2 ^ 32) (text : String) (reference : UInt32) :
    table.references[text]? = some reference ↔
      table.symbols[reference.toNat]? = some text := by
  rw [records.references, records.getElem?_symbols, referenceOf?]
  rw [records.size] at fits
  constructor
  · intro found
    split at found
    next known =>
      rw [← Option.some.inj found, toNat_position known fits, getElem?_position known]
    next => cases found
  · intro found
    have known : text ∈ "" :: texts := mem_symbolsOf.mp (List.mem_of_getElem? found)
    rw [if_pos known, position_eq_of_getElem? found, UInt32.ofNat_toNat]

theorem records_new : new.Records [] where
  symbols := rfl
  references text := by
    rw [new, Std.HashMap.getElem?_insert, Std.HashMap.getElem?_empty, referenceOf?]
    by_cases empty : text = ""
    · rw [empty]
      rfl
    · have other : ("" == text) = false := beq_eq_false_iff_ne.mpr (Ne.symm empty)
      rw [other, if_neg Bool.false_ne_true, if_neg (mt List.mem_singleton.mp empty)]

/-- Interning a text makes no difference to known ones, nor to other ones. -/
theorem referenceOf?_append_singleton {text other : String}
    (unaffected : other ∈ "" :: texts ∨ other ≠ text) :
    referenceOf? (texts ++ [text]) other = referenceOf? texts other := by
  have more : other ∈ "" :: (texts ++ [text]) ↔ other ∈ "" :: texts ∨ other = text := by
    rw [← List.cons_append, List.mem_append, List.mem_singleton]
  by_cases known : other ∈ "" :: texts
  · rw [referenceOf?, referenceOf?, if_pos known, if_pos (more.mpr (.inl known)),
      position_continued (List.prefix_append _ _) known]
  · have different := not_or.mpr ⟨known, unaffected.resolve_left known⟩
    rw [referenceOf?, referenceOf?, if_neg known, if_neg (mt more.mp different)]

/-- A known text changes nothing, and a new one gets the next position. -/
theorem Records.symbolize (records : table.Records texts) (text : String) :
    (table.symbolize text).1 = UInt32.ofNat (position (texts ++ [text]) text) ∧
      (table.symbolize text).2.Records (texts ++ [text]) := by
  have found := records.references text
  by_cases known : text ∈ "" :: texts
  · rw [referenceOf?, if_pos known] at found
    simp only [SymbolTable.symbolize, found]
    refine ⟨by rw [position_continued (List.prefix_append _ _) known], ?_, fun other => ?_⟩
    · rw [symbolsOf_append_singleton, if_pos known, records.symbols]
    · rw [records.references, referenceOf?_append_singleton]
      exact or_iff_not_imp_right.mpr fun same => not_not.mp same ▸ known
  · rw [referenceOf?, if_neg known] at found
    have next : table.symbols.size = position (texts ++ [text]) text := by
      rw [records.size, position_append_singleton known]
    simp only [SymbolTable.symbolize, found]
    refine ⟨by rw [next], ?_, fun other => ?_⟩
    · rw [Array.toList_push, records.symbols, symbolsOf_append_singleton, if_neg known]
    · rw [Std.HashMap.getElem?_insert, next]
      by_cases same : text = other
      · rw [same, beq_self_eq_true, if_pos rfl, referenceOf?, if_pos (by simp)]
      · rw [beq_eq_false_iff_ne.mpr same, if_neg Bool.false_ne_true, records.references,
          referenceOf?_append_singleton (.inr (Ne.symm same))]

/-! ## Labels -/

/-- Labels with a value for every name: a last name without one is paired with
the empty text. -/
def paired (labels : List String) : List String :=
  labels ++ if labels.length % 2 = 1 then [""] else []

theorem paired_cons_cons (name value : String) (rest : List String) :
    paired (name :: value :: rest) = name :: value :: paired rest := by
  have parity : (name :: value :: rest).length % 2 = rest.length % 2 :=
    Nat.add_mod_right rest.length 2
  rw [paired, paired, parity, List.cons_append, List.cons_append]

theorem length_paired (labels : List String) :
    (paired labels).length = 2 * ((labels.length + 1) / 2) := by
  rw [paired, List.length_append]
  by_cases odd : labels.length % 2 = 1
  · rw [if_pos odd, List.length_singleton]
    omega
  · rw [if_neg odd, List.length_nil]
    omega

theorem mem_paired {labels : List String} {text : String} (member : text ∈ paired labels) :
    text ∈ "" :: labels := by
  rw [paired, List.mem_append] at member
  rcases member with label | added
  · exact List.mem_cons_of_mem _ label
  · by_cases odd : labels.length % 2 = 1
    · rw [if_pos odd] at added
      rw [List.mem_singleton.mp added]
      exact List.mem_cons_self
    · rw [if_neg odd] at added
      cases added

/-- The references of labels are the positions of the names and values in the
table that has interned all of them. -/
theorem Records.symbolizeLabels (records : table.Records texts) (labels : List String) :
    (table.symbolizeLabels labels).1 =
        (paired labels).map (fun text => UInt32.ofNat (position (texts ++ labels) text)) ∧
      (table.symbolizeLabels labels).2.Records (texts ++ labels) := by
  induction table, labels using SymbolTable.symbolizeLabels.induct generalizing texts with
  | case1 table =>
      rw [List.append_nil]
      exact ⟨rfl, records⟩
  | case2 table name reference next interned =>
      obtain ⟨named, recorded⟩ := records.symbolize name
      rw [interned] at named recorded
      rw [SymbolTable.symbolizeLabels, interned]
      refine ⟨?_, recorded⟩
      show [reference, 0] = [UInt32.ofNat (position (texts ++ [name]) name),
        UInt32.ofNat (position (texts ++ [name]) "")]
      rw [← named, position_empty]
      rfl
  | case3 table name value rest reference next interned valueReference last internedValue _ _ _
      inductionHypothesis =>
      obtain ⟨named, namedRecords⟩ := records.symbolize name
      rw [interned] at named namedRecords
      obtain ⟨valued, valuedRecords⟩ := namedRecords.symbolize value
      rw [internedValue] at valued valuedRecords
      obtain ⟨followed, recorded⟩ := inductionHypothesis valuedRecords
      have inOrder : texts ++ [name] ++ [value] ++ rest = texts ++ name :: value :: rest := by
        simp only [List.append_assoc, List.cons_append, List.nil_append]
      rw [inOrder] at followed recorded
      simp only [SymbolTable.symbolizeLabels, interned, internedValue, paired_cons_cons]
      refine ⟨?_, recorded⟩
      -- The positions of name and value are not moved by what follows them.
      have nameStays : position (texts ++ name :: value :: rest) name =
          position (texts ++ [name]) name :=
        position_continued ⟨value :: rest, by rw [List.append_assoc]; rfl⟩ (by simp)
      have valueStays : position (texts ++ name :: value :: rest) value =
          position (texts ++ [name] ++ [value]) value :=
        position_continued ⟨rest, inOrder⟩ (by simp)
      rw [List.map_cons, List.map_cons, nameStays, valueStays, ← named, ← valued, ← followed]

/-- A given buffer makes no difference but for what it holds already. -/
theorem appendReferences_eq (table : SymbolTable) (buffer : Array UInt32) (labels : List String) :
    table.appendReferences buffer labels =
      (buffer ++ (table.symbolizeLabels labels).1.toArray, (table.symbolizeLabels labels).2) := by
  induction table, buffer, labels using appendReferences.induct with
  | case1 table buffer =>
      rw [appendReferences, SymbolTable.symbolizeLabels, Array.append_empty]
  | case2 table buffer name reference next interned =>
      simp only [appendReferences, SymbolTable.symbolizeLabels, interned]
      rw [← Array.append_singleton, ← Array.append_singleton, Array.append_assoc]
      rfl
  | case3 table buffer name value rest reference next interned valueReference last internedValue
      inductionHypothesis =>
      simp only [appendReferences, SymbolTable.symbolizeLabels, interned, internedValue,
        inductionHypothesis]
      rw [← Array.append_singleton, ← Array.append_singleton, Array.append_assoc,
        Array.append_assoc]
      simp

theorem symbolizeLabelsInto_eq (table : SymbolTable) (labels : List String)
    (buffer : Array UInt32) :
    table.symbolizeLabelsInto labels buffer =
      ((table.symbolizeLabels labels).1.toArray, (table.symbolizeLabels labels).2) := by
  have emptied : buffer.take 0 = #[] := by simp
  rw [symbolizeLabelsInto, appendReferences_eq, emptied, Array.empty_append]

end RemoteWrite.SymbolTable
