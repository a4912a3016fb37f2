import RemoteWrite.Text.Hexadecimal

/-!
Contract: a number is read back from its hexadecimal text.

Owns:
- the value of a digit, and of digits in a row;
- reading the digits of a number, with any number of zeros in front.

Does not own: upper-case digits, or digits that stand for bytes.
-/

namespace RemoteWrite.Text.Hexadecimal

theorem digit?_digitChar {digit : Nat} (single : digit < 16) :
    digit? digit.digitChar = some digit := by
  have table : ∀ digit < 16, digit? digit.digitChar = some digit := by decide
  exact table digit single

theorem value?_append (left right : List Char) :
    value? (left ++ right) = (value? left).bind fun high =>
      right.foldlM (fun value c => (digit? c).map (16 * value + ·)) high := by
  rw [value?, List.foldlM_append]
  rfl

/-- A digit at the end makes the value sixteen times as large and adds its
own. -/
theorem value?_append_digitChar {text : List Char} {high digit : Nat}
    (read : value? text = some high) (single : digit < 16) :
    value? (text ++ [digit.digitChar]) = some (16 * high + digit) := by
  rw [value?_append, read, Option.bind_some, List.foldlM_cons, digit?_digitChar single]
  rfl

/-- Zeros denote nothing. -/
theorem value?_replicate_zero (count : Nat) :
    value? (List.replicate count '0') = some 0 := by
  induction count with
  | zero => rfl
  | succ count inductionHypothesis =>
      rw [List.replicate_succ']
      exact value?_append_digitChar inductionHypothesis (Nat.zero_lt_succ 15)

/-- A number is read back from its digits, whatever zeros are in front of
them. -/
theorem value?_padded (count n : Nat) :
    value? (List.replicate count '0' ++ digits n) = some n := by
  induction n using Nat.strongRecOn with
  | ind n inductionHypothesis =>
      unfold digits at inductionHypothesis ⊢
      by_cases single : n < 16
      · rw [Nat.toDigits_of_lt_base single]
        simpa using value?_append_digitChar (value?_replicate_zero count) single
      · have several : 16 ≤ n := Nat.le_of_not_lt single
        have high := inductionHypothesis (n / 16) (Nat.div_lt_self (by omega) (by decide))
        rw [Nat.toDigits_of_base_le (by decide) several, ← List.append_assoc,
          value?_append_digitChar high (Nat.mod_lt n (by decide)), Nat.div_add_mod]

end RemoteWrite.Text.Hexadecimal
