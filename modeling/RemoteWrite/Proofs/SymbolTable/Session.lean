import RemoteWrite.Proofs.SymbolTable.Interning

/-!
Contract: a table stays in step with the texts that were interned in it,
whatever is done with it and its clones.

A session is a table in use and the clones kept of it. Its history forgets
tables and keeps the texts that each has interned since it was last empty. A
clone takes the texts of its table along.

Owns:
- the operations on tables, sessions, and their histories;
- that every table of a session records its texts;
- symbols, references, and reverse map of the table after any operations.

Does not own: what references are used for.
-/

namespace RemoteWrite.SymbolTable

inductive Operation where
  | symbolize (symbol : String)
  /-- Labels are interned, and their references put in a buffer that is used
  again. -/
  | symbolizeLabels (labels : List String) (buffer : Array UInt32)
  | reset
  /-- A clone of the table is kept. -/
  | save
  /-- A clone of a kept table takes the place of the table. The latest one is
  of age zero; where none is kept there is a new table. -/
  | restore (age : Nat)

/-- The table goes on, neither emptied nor replaced. -/
def Operation.continues : Operation → Bool
  | symbolize _ => true
  | symbolizeLabels _ _ => true
  | reset => false
  | save => true
  | restore _ => false

/-- A table in use and the clones kept of it, the latest first. -/
structure Session where
  table : SymbolTable := new
  kept : List SymbolTable := []

namespace Session

def apply (session : Session) : Operation → Session
  | .symbolize symbol => { session with table := (session.table.symbolize symbol).2 }
  | .symbolizeLabels labels buffer =>
    { session with table := (session.table.symbolizeLabelsInto labels buffer).2 }
  | .reset => { session with table := session.table.reset }
  | .save => { session with kept := session.table :: session.kept }
  | .restore age => { session with table := session.kept[age]?.getD new }

/-- The session after operations on a new table. -/
def run (operations : List Operation) : Session := operations.foldl apply {}

end Session

/-- The texts interned in the table since it was last empty, in order, and
those of the clones kept of it. -/
structure History where
  texts : List String := []
  kept : List (List String) := []

namespace History

def apply (history : History) : Operation → History
  | .symbolize symbol => { history with texts := history.texts ++ [symbol] }
  | .symbolizeLabels labels _ => { history with texts := history.texts ++ labels }
  | .reset => { history with texts := [] }
  | .save => { history with kept := history.texts :: history.kept }
  | .restore age => { history with texts := history.kept[age]?.getD [] }

def run (operations : List Operation) : History := operations.foldl apply {}

/-- A table that goes on only gains texts. -/
theorem prefix_apply {operation : Operation} (continues : operation.continues = true)
    (history : History) : history.texts <+: (history.apply operation).texts := by
  cases operation with
  | symbolize symbol => exact List.prefix_append _ _
  | symbolizeLabels labels buffer => exact List.prefix_append _ _
  | reset => cases continues
  | save => exact List.prefix_rfl
  | restore age => cases continues

/-- Whatever the table has gained with an operation it keeps while it goes
on. -/
theorem prefix_run (operations : List Operation) (operation : Operation) {later : List Operation}
    (continued : ∀ operation ∈ later, operation.continues = true) :
    ((run operations).apply operation).texts <+:
      (run (operations ++ operation :: later)).texts := by
  rw [run, run, List.foldl_append, List.foldl_cons]
  generalize (operations.foldl apply {}).apply operation = history
  induction later generalizing history with
  | nil => exact List.prefix_rfl
  | cons first rest inductionHypothesis =>
      have gained := prefix_apply (continued first List.mem_cons_self) history
      exact gained.trans (inductionHypothesis
        (fun other member => continued other (List.mem_cons_of_mem _ member)) _)

end History

/-! ## Sessions and their histories -/

namespace Session

/-- The table and all clones record the texts that the history says. -/
structure Refines (session : Session) (history : History) : Prop where
  table : session.table.Records history.texts
  kept : ∀ age : Nat, (session.kept[age]?.getD new).Records (history.kept[age]?.getD [])

theorem Refines.apply {session : Session} {history : History} (refines : session.Refines history)
    (operation : Operation) : (session.apply operation).Refines (history.apply operation) := by
  cases operation with
  | symbolize symbol => exact ⟨(refines.table.symbolize symbol).2, refines.kept⟩
  | symbolizeLabels labels buffer =>
      refine ⟨?_, refines.kept⟩
      show (session.table.symbolizeLabelsInto labels buffer).2.Records _
      rw [symbolizeLabelsInto_eq]
      exact (refines.table.symbolizeLabels labels).2
  | reset => exact ⟨records_new, refines.kept⟩
  | save =>
      refine ⟨refines.table, fun age => ?_⟩
      cases age with
      | zero => exact refines.table
      | succ age => exact refines.kept age
  | restore age => exact ⟨refines.kept age, refines.kept⟩

theorem refines_run (operations : List Operation) : (run operations).Refines (.run operations) := by
  have start : Refines {} {} := ⟨records_new, fun _ => records_new⟩
  rw [run, History.run]
  generalize ({} : Session) = session at start ⊢
  generalize ({} : History) = history at start ⊢
  induction operations generalizing session history with
  | nil => exact start
  | cons operation rest inductionHypothesis =>
      exact inductionHypothesis _ _ (start.apply operation)

/-- Whatever is done with a table, its symbols are the empty text and the texts
interned since the last reset, each where it occurs first. None occurs twice,
the empty one has number zero, and the reverse map is the inverse of the
symbols. Interning a text returns its number among the symbols, which it keeps
as long as the table goes on, and in general in every table whose history
begins in the same way: also in clones made since then. -/
theorem symbols_run (operations : List Operation) :
    let table := (run operations).table
    let texts := (History.run operations).texts
    table.symbols.toList = ("" :: texts).eraseDups ∧
      table.symbols[0]? = some "" ∧
      table.symbols.toList.Nodup ∧
      (table.symbols.size ≤ 2 ^ 32 → ∀ (symbol : String) (reference : UInt32),
        table.references[symbol]? = some reference ↔
          table.symbols[reference.toNat]? = some symbol) ∧
      ∀ symbol : String,
        let interned := table.symbolize symbol
        interned.2.symbols.size ≤ 2 ^ 32 →
          interned.2.symbols[interned.1.toNat]? = some symbol ∧
          ∀ later : List Operation,
            let whole := operations ++ .symbolize symbol :: later
            (∀ operation ∈ later, operation.continues = true) ∨
                texts ++ [symbol] <+: (History.run whole).texts →
              (run whole).table.symbols[interned.1.toNat]? = some symbol := by
  intro table texts
  have records : table.Records texts := (refines_run operations).table
  refine ⟨records.symbols, ?_, ?_, ?_, ?_⟩
  · rw [records.getElem?_symbols, ← position_empty texts]
    exact getElem?_position List.mem_cons_self
  · rw [records.symbols]
    exact nodup_symbolsOf texts
  · exact fun fits symbol reference => records.references_iff fits symbol reference
  intro symbol interned fits
  obtain ⟨reference, recorded⟩ := records.symbolize symbol
  have known : symbol ∈ "" :: (texts ++ [symbol]) := by simp
  have number : interned.1.toNat = position (texts ++ [symbol]) symbol := by
    rw [reference]
    exact toNat_position known (recorded.size ▸ fits)
  rw [number]
  constructor
  · rw [recorded.getElem?_symbols]
    exact getElem?_position known
  · intro later whole
    -- A table that goes on is a case of a history that begins in the same way.
    suffices general : texts ++ [symbol] <+: (History.run whole).texts →
        (run whole).table.symbols[position (texts ++ [symbol]) symbol]? = some symbol by
      rintro (continued | begun)
      · exact general (History.prefix_run operations (.symbolize symbol) continued)
      · exact general begun
    intro begun
    rw [(refines_run whole).table.getElem?_symbols]
    exact getElem?_position_continued begun known

/-- A clone of a table with one text is restored after other texts were
interned in its place. A second text gets the next number, and the table that
has it comes back after a reset. -/
theorem symbols_run_restored :
    let before : List Operation := [.symbolize "a", .save, .reset,
      .symbolizeLabels ["b", "a", "b"] #[7, 7], .save, .restore 1]
    let later : List Operation := [.symbolizeLabels ["c", "b", "a"] #[], .save, .reset,
      .restore 0]
    let whole := before ++ .symbolize "b" :: later
    let interned := (run before).table.symbolize "b"
    (run before).table.symbols.toList = ["", "a"] ∧
      (run before).table.symbols.size ≤ 2 ^ 32 ∧
      (run before).table.references["a"]? = some 1 ∧
      interned.2.symbols.size ≤ 2 ^ 32 ∧
      interned.2.symbols[interned.1.toNat]? = some "b" ∧
      (History.run before).texts ++ ["b"] <+: (History.run whole).texts ∧
      (run whole).table.symbols.toList = ["", "a", "b", "c"] ∧
      (run whole).table.symbols[interned.1.toNat]? = some "b" := by
  intro before later whole interned
  obtain ⟨symbols, _, _, inverse, keeps⟩ := symbols_run before
  have start : (run before).table.symbols.toList = ["", "a"] := symbols.trans (by decide)
  have fits : (run before).table.symbols.size ≤ 2 ^ 32 := by
    rw [← Array.length_toList, start]
    decide
  have second : interned.2.symbols.toList = ["", "a", "b"] := by
    have symbols : (run (before ++ [.symbolize "b"])).table.symbols.toList = ["", "a", "b"] :=
      (symbols_run _).1.trans (by decide)
    exact symbols
  have secondFits : interned.2.symbols.size ≤ 2 ^ 32 := by
    rw [← Array.length_toList, second]
    decide
  have begun : (History.run before).texts ++ ["b"] <+: (History.run whole).texts :=
    ⟨["c", "b", "a"], rfl⟩
  obtain ⟨found, stays⟩ := keeps "b" secondFits
  refine ⟨start, fits, (inverse fits "a" 1).mpr ?_, secondFits, found, begun,
    (symbols_run whole).1.trans (by decide), stays later (.inr begun)⟩
  rw [← Array.getElem?_toList, start]
  rfl

end Session
end RemoteWrite.SymbolTable
