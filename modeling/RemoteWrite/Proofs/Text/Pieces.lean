import RemoteWrite.Text.Pieces

/-!
Contract: a text is cut at every separator and nowhere else.

Owns:
- cuts of a text, without saying how they are found;
- that there is exactly one cut, and the number of its pieces.

Does not own: what the pieces mean.
-/

namespace RemoteWrite.Text

/-- The pieces make up the text with a separator between each two of them, and
no separator is left in a piece. -/
inductive IsCut (separator : Char) : List Char → List (List Char) → Prop where
  | last {piece : List Char} (whole : separator ∉ piece) : IsCut separator piece [piece]
  | cons {piece rest : List Char} {pieces : List (List Char)} (whole : separator ∉ piece)
      (cut : IsCut separator rest pieces) :
      IsCut separator (piece ++ separator :: rest) (piece :: pieces)

variable {separator : Char}

theorem pieces_of_notMem {piece : List Char} (whole : separator ∉ piece) :
    pieces separator piece = [piece] := by
  induction piece with
  | nil => rfl
  | cons c rest inductionHypothesis =>
      have other := List.ne_of_not_mem_cons whole
      rw [pieces, if_neg other.symm, inductionHypothesis (List.not_mem_of_not_mem_cons whole)]

theorem pieces_append {piece : List Char} (whole : separator ∉ piece) (rest : List Char) :
    pieces separator (piece ++ separator :: rest) = piece :: pieces separator rest := by
  induction piece with
  | nil => rw [List.nil_append, pieces, if_pos rfl]
  | cons c others inductionHypothesis =>
      have other := List.ne_of_not_mem_cons whole
      rw [List.cons_append, pieces, if_neg other.symm,
        inductionHypothesis (List.not_mem_of_not_mem_cons whole)]

/-- A character that is no separator belongs to the first piece. -/
theorem IsCut.extend {c : Char} {text : List Char} {cut : List (List Char)} (other : c ≠ separator)
    (isCut : IsCut separator text cut) :
    ∃ piece rest, cut = piece :: rest ∧ IsCut separator (c :: text) ((c :: piece) :: rest) := by
  have absent {piece : List Char} (whole : separator ∉ piece) : separator ∉ c :: piece :=
    List.not_mem_cons_of_ne_of_not_mem other.symm whole
  cases isCut with
  | last whole => exact ⟨_, _, rfl, .last (absent whole)⟩
  | cons whole cut => exact ⟨_, _, rfl, .cons (absent whole) cut⟩

theorem isCut_pieces (separator : Char) (text : List Char) :
    IsCut separator text (pieces separator text) := by
  induction text with
  | nil => exact .last List.not_mem_nil
  | cons c rest inductionHypothesis =>
      rw [pieces]
      by_cases found : c = separator
      · rw [if_pos found, found]
        exact .cons List.not_mem_nil inductionHypothesis
      · obtain ⟨piece, others, first, extended⟩ := inductionHypothesis.extend found
        rw [if_neg found, first]
        exact extended

/-- There is one cut of every text. -/
theorem pieces_eq_iff {text : List Char} {cut : List (List Char)} :
    pieces separator text = cut ↔ IsCut separator text cut := by
  constructor
  · rintro rfl
    exact isCut_pieces separator text
  · intro isCut
    induction isCut with
    | last whole => exact pieces_of_notMem whole
    | cons whole cut inductionHypothesis => rw [pieces_append whole, inductionHypothesis]

/-- There is one piece more than there are separators. -/
theorem IsCut.length_eq {text : List Char} {cut : List (List Char)}
    (isCut : IsCut separator text cut) : cut.length = text.count separator + 1 := by
  induction isCut with
  | last whole => rw [List.count_eq_zero_of_not_mem whole, List.length_singleton]
  | cons whole cut inductionHypothesis =>
      rw [List.length_cons, inductionHypothesis, List.count_append,
        List.count_eq_zero_of_not_mem whole, List.count_cons_self, Nat.zero_add]

end RemoteWrite.Text
