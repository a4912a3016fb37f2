import RemoteWrite.Proofs.Text.Utf8
import RemoteWrite.Proofs.Text.WhiteSpace
import RemoteWrite.Text.Numeral

/-!
Contract: a number is read back from its decimal text.

Owns:
- the digits of a number, which are neither signs nor white space;
- reading the digits, with and without a bound;
- the digits as a header value.

Does not own: other spellings of numbers.
-/

namespace RemoteWrite.Text

namespace Numeral

/-! ## Digits -/

theorem toNat_digitChar {digit : Nat} (single : digit < 10) :
    (digitChar digit).toNat = 48 + digit := by
  exact toNat_ofNat (.inl (by omega))

theorem mem_digits {n : Nat} : ∀ c ∈ digits n, 48 ≤ c.toNat ∧ c.toNat ≤ 57 := by
  induction n using digits.induct with
  | case1 n small =>
      intro c member
      rw [digits, if_pos small] at member
      rw [List.mem_singleton.mp member, toNat_digitChar small]
      omega
  | case2 n large inductionHypothesis =>
      intro c member
      rw [digits, if_neg large] at member
      rcases List.mem_append.mp member with high | low
      · exact inductionHypothesis c high
      · rw [List.mem_singleton.mp low, toNat_digitChar (by omega)]
        omega

theorem digits_ne_nil (n : Nat) : digits n ≠ [] := by
  rw [digits]
  by_cases small : n < 10
  · rw [if_pos small]
    exact List.cons_ne_nil _ _
  · rw [if_neg small]
    exact List.append_ne_nil_of_right_ne_nil _ (List.cons_ne_nil _ _)

/-! ## Reading digits -/

theorem valueFrom_append (value : Nat) (left right : List Char) :
    valueFrom value (left ++ right) = (valueFrom value left).bind (valueFrom · right) := by
  induction left generalizing value with
  | nil => rfl
  | cons c rest inductionHypothesis =>
      rw [List.cons_append, valueFrom, valueFrom]
      cases digit? c with
      | none => rfl
      | some digit => exact inductionHypothesis _

theorem valueFrom_digitChar {value digit : Nat} (single : digit < 10) :
    valueFrom value [digitChar digit] = some (10 * value + digit) := by
  have code := toNat_digitChar single
  have inRange : 48 ≤ (digitChar digit).toNat ∧ (digitChar digit).toNat ≤ 57 := by omega
  have read : digit? (digitChar digit) = some digit := by
    rw [digit?, if_pos inRange, code, Nat.add_sub_cancel_left]
  rw [valueFrom, read]
  rfl

theorem valueFrom_digits (n : Nat) : valueFrom 0 (digits n) = some n := by
  induction n using digits.induct with
  | case1 n small =>
      rw [digits, if_pos small, valueFrom_digitChar small, Nat.mul_zero, Nat.zero_add]
  | case2 n large inductionHypothesis =>
      rw [digits, if_neg large, valueFrom_append, inductionHypothesis, Option.bind_some,
        valueFrom_digitChar (Nat.mod_lt n (by decide)), Nat.div_add_mod]

theorem digits_injective : Function.Injective digits := by
  intro n other same
  have read := valueFrom_digits n
  rw [same, valueFrom_digits] at read
  exact (Option.some.inj read).symm

/-- Digits make the limit of a number as many times ten times as large. -/
theorem valueFrom_lt {value limit n : Nat} {digits : List Char} (start : value < limit)
    (read : valueFrom value digits = some n) : n < limit * 10 ^ digits.length := by
  induction digits generalizing value limit with
  | nil =>
      cases read
      rwa [List.length_nil, Nat.pow_zero, Nat.mul_one]
  | cons c rest inductionHypothesis =>
      rw [valueFrom, digit?] at read
      by_cases decimal : 48 ≤ c.toNat ∧ c.toNat ≤ 57
      · rw [if_pos decimal] at read
        have next : 10 * value + (c.toNat - 48) < 10 * limit := by omega
        have bound := inductionHypothesis next read
        rwa [Nat.mul_comm 10 limit, Nat.mul_assoc, ← Nat.pow_succ'] at bound
      · rw [if_neg decimal] at read
        cases read

/-- A number is below the power of ten that has as many zeros as it has
digits. -/
theorem value?_lt {text : List Char} {n : Nat} (read : value? text = some n) :
    n < 10 ^ text.length := by
  cases text with
  | nil => cases read
  | cons c rest =>
      have bound := valueFrom_lt Nat.one_pos read
      rwa [Nat.one_mul] at bound

/-- A numeral starts with a digit or the plus sign. -/
theorem toNat_head_parse? {bound n : Nat} {text : List Char} (read : parse? bound text = some n) :
    ∃ c rest, text = c :: rest ∧ c.toNat < 58 := by
  cases text with
  | nil =>
      rw [parse?, value?] at read
      · cases read
      · exact nofun
  | cons c rest =>
      refine ⟨c, rest, rfl, Nat.lt_of_not_le fun large => ?_⟩
      have noDigit : digit? c = none := if_neg fun decimal => by omega
      rw [parse?, value?, valueFrom, noDigit] at read
      · cases read
      · exact nofun
      · intro others plus
        cases plus
        exact absurd large (by decide)

/-- A number is read back from its digits if it is below the bound. -/
theorem parse?_digits (bound n : Nat) :
    parse? bound (digits n) = if n < bound then some n else none := by
  have value : value? (digits n) = some n := by
    rw [value?]
    · exact valueFrom_digits n
    · exact digits_ne_nil n
  -- A plus sign in front would be dropped.
  have unsigned : ∀ rest, digits n ≠ '+' :: rest := by
    intro rest plus
    have decimal := mem_digits '+' (plus ▸ List.mem_cons_self)
    exact absurd decimal.1 (by decide)
  rw [parse?]
  · simp only [value]
  · exact unsigned

theorem isWhiteSpace_of_digit {c : Char} (decimal : 48 ≤ c.toNat ∧ c.toNat ≤ 57) :
    isWhiteSpace c = false := by
  simp only [isWhiteSpace, whiteSpaceRanges, List.any_cons, List.any_nil, Bool.or_false,
    Bool.or_eq_false_iff, Bool.and_eq_false_iff, decide_eq_false_iff_not]
  omega

theorem trim_digits (n : Nat) : trim (digits n) = digits n :=
  trim_of_solid fun c member => isWhiteSpace_of_digit (mem_digits c member)

theorem parseUInt64?_digits (n : UInt64) : parseUInt64? (digits n.toNat) = some n := by
  rw [parseUInt64?, parse?_digits, if_pos n.toNat_lt, Option.map_some, UInt64.ofNat_toNat]

/-- Digits are a readable header value. -/
theorem visible?_render (n : Nat) : visible? (utf8 (render n)) = some (render n) := by
  refine visible?_utf8 fun c member => ?_
  have decimal := mem_digits c member
  exact .inr ⟨by omega, by omega⟩

end Numeral
end RemoteWrite.Text
