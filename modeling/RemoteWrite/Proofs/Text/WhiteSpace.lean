import RemoteWrite.Text.WhiteSpace

/-!
Contract: trimming removes the white space around a text and nothing else.

Owns:
- texts with white space around them, and texts without any at their ends;
- trimming as the inverse of putting white space around such a text.

Does not own: which characters are white space.
-/

namespace RemoteWrite.Text

/-- The text is another one with white space on both sides, or on one, or on
neither. -/
def Padded (core text : List Char) : Prop :=
  ∃ before after, text = before ++ core ++ after ∧
    (∀ c ∈ before, isWhiteSpace c = true) ∧ ∀ c ∈ after, isWhiteSpace c = true

/-- No character of the text is white space. -/
def Solid (text : List Char) : Prop :=
  ∀ c ∈ text, isWhiteSpace c = false

instance (text : List Char) : Decidable (Solid text) :=
  List.decidableBAll (isWhiteSpace · = false) text

theorem padded_trim (text : List Char) : Padded (trim text) text := by
  unfold trim trimWhile dropEndWhile
  refine ⟨text.takeWhile isWhiteSpace,
    ((text.dropWhile isWhiteSpace).reverse.takeWhile isWhiteSpace).reverse, ?_, ?_, ?_⟩
  · rw [List.append_assoc, ← List.reverse_append, List.takeWhile_append_dropWhile,
      List.reverse_reverse, List.takeWhile_append_dropWhile]
  · intro c member
    exact List.all_eq_true.mp List.all_takeWhile c member
  · intro c member
    exact List.all_eq_true.mp List.all_takeWhile c (List.mem_reverse.mp member)

/-- There is no white space at either end of the text. -/
structure Trimmed (text : List Char) : Prop where
  starts : ∀ c ∈ text.head?, isWhiteSpace c = false
  ends : ∀ c ∈ text.getLast?, isWhiteSpace c = false

theorem Trimmed.dropWhile_eq {text : List Char} (trimmed : Trimmed text) :
    text.dropWhile isWhiteSpace = text := by
  cases text with
  | nil => rfl
  | cons c rest =>
      rw [List.dropWhile_cons, trimmed.starts c rfl]
      rfl

theorem Trimmed.reverse {text : List Char} (trimmed : Trimmed text) : Trimmed text.reverse where
  starts := by
    rw [List.head?_reverse]
    exact trimmed.ends
  ends := by
    rw [List.getLast?_reverse]
    exact trimmed.starts

theorem Solid.trimmed {text : List Char} (solid : Solid text) : Trimmed text where
  starts c first := solid c (List.mem_of_head? first)
  ends c last := solid c (List.mem_of_getLast? last)

/-- White space around a text goes, and white space within it stays. -/
theorem trim_of_trimmed {core text : List Char} (trimmed : Trimmed core)
    (padded : Padded core text) : trim text = core := by
  obtain ⟨before, after, rfl, leading, trailing⟩ := padded
  have reversed : ∀ c ∈ after.reverse, isWhiteSpace c = true := by
    intro c member
    exact trailing c (List.mem_reverse.mp member)
  unfold trim trimWhile dropEndWhile
  rw [List.append_assoc, List.dropWhile_append_of_pos leading]
  cases core with
  | nil =>
      have nothing : after.dropWhile isWhiteSpace = [] := by
        have dropped : (after ++ []).dropWhile isWhiteSpace = _ :=
          List.dropWhile_append_of_pos trailing
        rwa [List.append_nil] at dropped
      rw [List.nil_append, nothing]
      rfl
  | cons c rest =>
      have kept : (c :: rest ++ after).dropWhile isWhiteSpace = c :: rest ++ after := by
        rw [List.cons_append, List.dropWhile_cons, trimmed.starts c rfl]
        rfl
      rw [kept, List.reverse_append, List.dropWhile_append_of_pos reversed,
        trimmed.reverse.dropWhile_eq, List.reverse_reverse]

theorem trim_of_padded {core text : List Char} (solid : Solid core) (padded : Padded core text) :
    trim text = core :=
  trim_of_trimmed solid.trimmed padded

/-- A solid text is what trimming leaves exactly of itself with white space
around it. -/
theorem trim_eq_iff {core text : List Char} (solid : Solid core) :
    trim text = core ↔ Padded core text := by
  constructor
  · rintro rfl
    exact padded_trim text
  · exact trim_of_padded solid

theorem trim_of_solid {text : List Char} (solid : Solid text) : trim text = text :=
  trim_of_padded solid ⟨[], [], (List.append_nil text).symm, nofun, nofun⟩

end RemoteWrite.Text
