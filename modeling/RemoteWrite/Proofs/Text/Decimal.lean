import Mathlib.Data.List.Induction
import RemoteWrite.Proofs.Text.Numeral

/-!
Contract: which texts are decimal numerals, and what they denote.

Owns:
- runs of digits with their number, without saying how they are read;
- numerals, which may have a plus sign in front;
- that exactly these are read, below any bound.

Does not own: the white space around a numeral.
-/

namespace RemoteWrite.Text

open Numeral

/-- The text is a run of digits, and this is its number. Zeros in front do not
matter. -/
inductive IsDecimal : List Char → Nat → Prop where
  | digit {d : Nat} (single : d < 10) : IsDecimal [digitChar d] d
  | append {front : List Char} {n d : Nat} (digits : IsDecimal front n) (single : d < 10) :
      IsDecimal (front ++ [digitChar d]) (10 * n + d)

/-- The text is a run of digits with at most one plus sign in front. -/
inductive IsNumeral : List Char → Nat → Prop where
  | plain {text : List Char} {n : Nat} (digits : IsDecimal text n) : IsNumeral text n
  | signed {text : List Char} {n : Nat} (digits : IsDecimal text n) : IsNumeral ('+' :: text) n

/-! ## Digits -/

theorem digit?_eq_some_iff {c : Char} {d : Nat} : digit? c = some d ↔ d < 10 ∧ c = digitChar d := by
  rw [digit?, Option.ite_none_right_eq_some, Option.some.injEq]
  constructor
  · rintro ⟨⟨low, high⟩, rfl⟩
    refine ⟨by omega, ?_⟩
    rw [digitChar, Nat.add_sub_cancel' low, Char.ofNat_toNat]
  · rintro ⟨single, rfl⟩
    rw [toNat_digitChar single]
    omega

namespace IsDecimal

variable {text : List Char} {n : Nat}

theorem mem (decimal : IsDecimal text n) : ∀ c ∈ text, 48 ≤ c.toNat ∧ c.toNat ≤ 57 := by
  induction decimal with
  | digit single =>
      rw [List.forall_mem_singleton, toNat_digitChar single]
      omega
  | append digits single inductionHypothesis =>
      rw [List.forall_mem_append, List.forall_mem_singleton, toNat_digitChar single]
      exact ⟨inductionHypothesis, by omega⟩

theorem ne_nil (decimal : IsDecimal text n) : text ≠ [] := by
  cases decimal with
  | digit single => exact List.cons_ne_nil _ _
  | append digits single => exact List.append_ne_nil_of_right_ne_nil _ (List.cons_ne_nil _ _)

theorem valueFrom_eq (decimal : IsDecimal text n) : valueFrom 0 text = some n := by
  induction decimal with
  | digit single => rw [valueFrom_digitChar single, Nat.mul_zero, Nat.zero_add]
  | append digits single inductionHypothesis =>
      rw [valueFrom_append, inductionHypothesis, Option.bind_some, valueFrom_digitChar single]

end IsDecimal

/-- The last digit of what is read makes up the ones of its number. -/
theorem isDecimal_of_valueFrom {text : List Char} {n : Nat} (nonempty : text ≠ [])
    (read : valueFrom 0 text = some n) : IsDecimal text n := by
  induction text using List.reverseRecOn generalizing n with
  | nil => exact absurd rfl nonempty
  | append_singleton front last inductionHypothesis =>
      rw [valueFrom_append, Option.bind_eq_some_iff] at read
      obtain ⟨value, front?, read⟩ := read
      rw [valueFrom] at read
      cases decimal : digit? last with
      | none =>
          rw [decimal] at read
          cases read
      | some d =>
          rw [decimal] at read
          obtain ⟨single, rfl⟩ := digit?_eq_some_iff.mp decimal
          cases read
          by_cases first : front = []
          · subst first
            cases front?
            rw [Nat.mul_zero, Nat.zero_add]
            exact .digit single
          · exact .append (inductionHypothesis first front?) single

theorem value?_eq_some_iff {text : List Char} {n : Nat} :
    value? text = some n ↔ IsDecimal text n := by
  cases text with
  | nil => exact ⟨nofun, fun decimal => absurd rfl decimal.ne_nil⟩
  | cons c rest =>
      exact ⟨isDecimal_of_valueFrom (List.cons_ne_nil c rest), IsDecimal.valueFrom_eq⟩

/-! ## Numerals -/

/-- No run of digits starts with a plus sign. -/
theorem IsDecimal.ne_plus {text rest : List Char} {n : Nat} (decimal : IsDecimal text n) :
    text ≠ '+' :: rest := by
  rintro rfl
  exact absurd (decimal.mem '+' List.mem_cons_self).1 (by decide)

theorem isNumeral_plus_iff {text : List Char} {n : Nat} :
    IsNumeral ('+' :: text) n ↔ IsDecimal text n := by
  refine ⟨fun numeral => ?_, .signed⟩
  cases numeral with
  | plain digits => exact absurd rfl digits.ne_plus
  | signed digits => exact digits

theorem isNumeral_iff_of_unsigned {text : List Char} {n : Nat}
    (unsigned : ∀ rest, text ≠ '+' :: rest) : IsNumeral text n ↔ IsDecimal text n := by
  refine ⟨fun numeral => ?_, .plain⟩
  cases numeral with
  | plain digits => exact digits
  | @signed rest _ digits => exact absurd rfl (unsigned rest)

theorem parse?_plus (bound : Nat) (rest : List Char) :
    parse? bound ('+' :: rest) = (value? rest).filter fun value => value < bound := by
  rw [parse?]
  cases value? rest with
  | none => rfl
  | some value => simp only [Option.filter_some, decide_eq_true_eq]

theorem parse?_of_unsigned (bound : Nat) {text : List Char}
    (unsigned : ∀ rest, text ≠ '+' :: rest) :
    parse? bound text = (value? text).filter fun value => value < bound := by
  rw [parse?]
  · cases value? text with
    | none => rfl
    | some value => simp only [Option.filter_some, decide_eq_true_eq]
  · exact unsigned

/-- Exactly the numerals of numbers below the bound are read. -/
theorem parse?_eq_some_iff {bound n : Nat} {text : List Char} :
    parse? bound text = some n ↔ IsNumeral text n ∧ n < bound := by
  by_cases signed : ∃ rest, text = '+' :: rest
  · obtain ⟨rest, rfl⟩ := signed
    rw [parse?_plus, Option.filter_eq_some_iff, value?_eq_some_iff, isNumeral_plus_iff,
      decide_eq_true_eq]
  · have unsigned : ∀ rest, text ≠ '+' :: rest := fun rest plus => signed ⟨rest, plus⟩
    rw [parse?_of_unsigned bound unsigned, Option.filter_eq_some_iff, value?_eq_some_iff,
      isNumeral_iff_of_unsigned unsigned, decide_eq_true_eq]

theorem parseUInt64?_eq_some_iff {text : List Char} {n : UInt64} :
    parseUInt64? text = some n ↔ IsNumeral text n.toNat := by
  rw [parseUInt64?, Option.map_eq_some_iff]
  constructor
  · rintro ⟨value, read, rfl⟩
    obtain ⟨numeral, fits⟩ := parse?_eq_some_iff.mp read
    rwa [UInt64.toNat_ofNat_of_lt' fits]
  · intro numeral
    exact ⟨n.toNat, parse?_eq_some_iff.mpr ⟨numeral, n.toNat_lt⟩, UInt64.ofNat_toNat⟩

namespace IsNumeral

variable {text : List Char} {n : Nat}

theorem mem (numeral : IsNumeral text n) :
    ∀ c ∈ text, c = '+' ∨ 48 ≤ c.toNat ∧ c.toNat ≤ 57 := by
  intro c member
  cases numeral with
  | plain digits => exact .inr (digits.mem c member)
  | signed digits =>
      rcases List.mem_cons.mp member with plus | digit
      · exact .inl plus
      · exact .inr (digits.mem c digit)

/-- A numeral denotes one number. -/
theorem unique {other : Nat} (numeral : IsNumeral text n) (denotes : IsNumeral text other) :
    n = other := by
  have left : parse? (n + other + 1) text = some n := parse?_eq_some_iff.mpr ⟨numeral, by omega⟩
  have right : parse? (n + other + 1) text = some other :=
    parse?_eq_some_iff.mpr ⟨denotes, by omega⟩
  exact Option.some.inj (left.symm.trans right)

theorem parse?_eq (numeral : IsNumeral text n) (bound : Nat) :
    parse? bound text = if n < bound then some n else none := by
  by_cases fits : n < bound
  · rw [if_pos fits]
    exact parse?_eq_some_iff.mpr ⟨numeral, fits⟩
  · rw [if_neg fits]
    cases read : parse? bound text with
    | none => rfl
    | some other =>
        obtain ⟨denotes, below⟩ := parse?_eq_some_iff.mp read
        exact absurd (numeral.unique denotes ▸ below) fits

/-- There is no white space in a numeral. -/
theorem solid (numeral : IsNumeral text n) : Solid text := by
  intro c member
  rcases numeral.mem c member with rfl | decimal
  · decide
  · exact isWhiteSpace_of_digit decimal

end IsNumeral

end RemoteWrite.Text
