import RemoteWrite.Proofs.Stats.Counter
import RemoteWrite.Proofs.Text.Decimal

/-!
Contract: what stats headers say, each by its first value alone.

A value counts if it is a numeral with blanks around it. Anything else that is
not empty is refused and counts nothing, but it confirms the stats all the
same.

Owns:
- the values that denote a counter, without saying how they are read;
- what headers count, what confirms them, and which of them are refused;
- that no header has a say in the counter of another.

Does not own: the texts of refused values.
-/

namespace RemoteWrite

/-! ## Blanks -/

namespace Text

/-- A space or a tab. -/
def IsBlank (c : Char) : Prop := c = ' ' ∨ c = '\t'

theorem IsBlank.isWhiteSpace {c : Char} (blank : IsBlank c) : isWhiteSpace c = true := by
  rcases blank with rfl | rfl <;> decide

theorem IsBlank.isVisible {c : Char} (blank : IsBlank c) : IsVisible c := by
  rcases blank with rfl | rfl
  · exact .inr (by decide)
  · exact .inl (by decide)

/-- Visible text has no other white space than blanks. -/
theorem IsVisible.isBlank {c : Char} (visible : IsVisible c) (space : isWhiteSpace c = true) :
    IsBlank c := by
  have code : c.toNat = ' '.toNat ∨ c.toNat = '\t'.toNat := by
    simp only [Text.isWhiteSpace, whiteSpaceRanges, List.any_cons, List.any_nil, Bool.or_false,
      Bool.or_eq_true, Bool.and_eq_true, decide_eq_true_eq] at space
    rw [IsVisible] at visible
    show c.toNat = 32 ∨ c.toNat = 9
    omega
  exact code.imp (fun same => Char.toNat_inj.mp same) fun same => Char.toNat_inj.mp same

theorem IsNumeral.isVisible {text : List Char} {n : Nat} (numeral : IsNumeral text n) :
    ∀ c ∈ text, IsVisible c := by
  intro c member
  rcases numeral.mem c member with rfl | decimal
  · exact .inr (by decide)
  · exact .inr (by omega)

end Text

/-! ## Values -/

namespace WriteStats

/-- The value is a numeral of a number below `2 ^ 64`, with nothing but blanks
around it. -/
inductive Denotes : Bytes → Nat → Prop where
  | numeral {before text after : List Char} {n : Nat}
      (leading : ∀ c ∈ before, Text.IsBlank c) (trailing : ∀ c ∈ after, Text.IsBlank c)
      (numeral : Text.IsNumeral text n) (fits : n < 2 ^ 64) :
      Denotes (Text.utf8 (String.ofList (before ++ text ++ after))) n

/-- The counter in a value. -/
def parse? (value : Bytes) : Option UInt64 :=
  (Text.visible? value).bind fun text => Text.Numeral.parseUInt64? (Text.trim text.toList)

/-- Exactly the values that denote a counter are read. -/
theorem parse?_eq_some_iff {value : Bytes} {n : UInt64} :
    parse? value = some n ↔ Denotes value n.toNat := by
  rw [parse?, Option.bind_eq_some_iff]
  constructor
  · rintro ⟨text, shown, read⟩
    obtain ⟨rfl, visible⟩ := Text.utf8_of_visible?_eq_some shown
    have numeral := Text.parseUInt64?_eq_some_iff.mp read
    obtain ⟨before, after, whole, leading, trailing⟩ := Text.padded_trim text.toList
    rw [whole] at visible
    rw [← String.ofList_toList (s := text), whole]
    refine .numeral (fun c member => ?_) (fun c member => ?_) numeral n.toNat_lt
    · exact (visible c (by simp [member])).isBlank (leading c member)
    · exact (visible c (by simp [member])).isBlank (trailing c member)
  · intro denotes
    generalize count : n.toNat = number at denotes
    cases denotes with
    | @numeral before text after _ leading trailing numeral fits =>
        subst count
        refine ⟨_, Text.visible?_utf8 ?_, ?_⟩
        · simp only [List.forall_mem_append]
          exact ⟨⟨fun c member => (leading c member).isVisible, numeral.isVisible⟩,
            fun c member => (trailing c member).isVisible⟩
        · rw [String.toList_ofList, Text.trim_of_padded numeral.solid ⟨before, after, rfl,
            fun c member => (leading c member).isWhiteSpace,
            fun c member => (trailing c member).isWhiteSpace⟩]
          exact Text.parseUInt64?_eq_some_iff.mpr numeral

theorem Denotes.lt {value : Bytes} {n : Nat} (denotes : Denotes value n) : n < 2 ^ 64 := by
  cases denotes with
  | numeral leading trailing numeral fits => exact fits

theorem parse?_of_denotes {value : Bytes} {n : Nat} (denotes : Denotes value n) :
    parse? value = some (UInt64.ofNat n) := by
  rwa [parse?_eq_some_iff, UInt64.toNat_ofNat_of_lt' denotes.lt]

theorem parse?_eq_none_iff {value : Bytes} : parse? value = none ↔ ∀ n, ¬ Denotes value n := by
  rw [Option.eq_none_iff_forall_ne_some]
  refine ⟨fun unread n denotes => unread _ (parse?_of_denotes denotes), fun nothing n read => ?_⟩
  exact nothing n.toNat (parse?_eq_some_iff.mp read)

end WriteStats

/-! ## Headers -/

namespace Counter

open WriteStats

/-- The first value of the header denotes the number. -/
def Counts (headers : Http.Headers) (counter : Counter) (n : Nat) : Prop :=
  ∃ value, headers.first? counter.headerName = some value ∧ Denotes value n

/-- The first value of the header is not empty, and it denotes no counter. -/
def IsRefused (headers : Http.Headers) (counter : Counter) : Prop :=
  ∃ value, headers.first? counter.headerName = some value ∧ value ≠ [] ∧ ∀ n, ¬ Denotes value n

/-- A refused header with the text of its first value. -/
def refusal (headers : Http.Headers) (counter : Counter) : InvalidHeader :=
  ⟨counter.headerName, Text.lossy ((headers.first? counter.headerName).getD [])⟩

variable {headers : Http.Headers} {counter : Counter}

theorem counted_eq (headers : Http.Headers) (counter : Counter) :
    counter.counted headers =
      (((headers.first? counter.headerName).bind parse?).map UInt64.toNat).getD 0 := by
  rw [counted, Http.Headers.text?, Option.bind_assoc]
  rfl

theorem counted_of_counts {n : Nat} (counts : counter.Counts headers n) :
    counter.counted headers = n := by
  obtain ⟨value, first, denotes⟩ := counts
  rw [counted_eq, first, Option.bind_some, parse?_of_denotes denotes, Option.map_some,
    Option.getD_some, UInt64.toNat_ofNat_of_lt' denotes.lt]

theorem counted_of_silent (silent : ∀ n, ¬ counter.Counts headers n) :
    counter.counted headers = 0 := by
  have unread : (headers.first? counter.headerName).bind parse? = none := by
    rw [Option.bind_eq_none_iff]
    intro value first
    exact parse?_eq_none_iff.mpr fun n denotes => silent n ⟨value, first, denotes⟩
  rw [counted_eq, unread, Option.map_none, Option.getD_none]

/-- A header has no say in the counter of another. -/
theorem counted_congr {others : Http.Headers}
    (same : others.values counter.headerName = headers.values counter.headerName) :
    counter.counted others = counter.counted headers := by
  rw [counted_eq, counted_eq, Http.Headers.first?, Http.Headers.first?, same]

theorem invalid?_read_of_refused (refused : counter.IsRefused headers) :
    (Report.read headers counter.headerName).invalid? = some (counter.refusal headers) := by
  obtain ⟨value, first, nonempty, nothing⟩ := refused
  have unread : parse? value = none := parse?_eq_none_iff.mpr nothing
  rw [refusal, Report.read, first]
  cases value with
  | nil => exact absurd rfl nonempty
  | cons byte rest =>
      rw [parse?] at unread
      simp only [unread, Report.invalid?, Option.getD_some]

theorem invalid?_read_of_not_refused (accepted : ¬ counter.IsRefused headers) :
    (Report.read headers counter.headerName).invalid? = none := by
  rw [Report.read]
  cases first : headers.first? counter.headerName with
  | none => rfl
  | some value =>
      cases value with
      | nil => rfl
      | cons byte rest =>
          cases read : parse? (byte :: rest) with
          | none =>
              refine absurd ⟨_, first, List.cons_ne_nil byte rest, ?_⟩ accepted
              exact parse?_eq_none_iff.mp read
          | some count =>
              rw [parse?] at read
              simp only [read, Report.invalid?]

instance : Decidable (counter.IsRefused headers) :=
  decidable_of_iff ((Report.read headers counter.headerName).invalid?.isSome = true) <| by
    by_cases refused : counter.IsRefused headers
    · rw [invalid?_read_of_refused refused, Option.isSome_some]
      exact iff_of_true rfl refused
    · rw [invalid?_read_of_not_refused refused, Option.isSome_none]
      exact iff_of_false Bool.false_ne_true refused

end Counter

namespace WriteStats

/-- The reports that are no counters are those of the refused headers. -/
theorem filterMap_invalid? (headers : Http.Headers) :
    [Report.read headers samplesHeaderName, Report.read headers histogramsHeaderName,
        Report.read headers exemplarsHeaderName].filterMap Report.invalid? =
      (Counter.all.filter fun counter => counter.IsRefused headers).map
        (Counter.refusal headers) := by
  have reports (counter : Counter) : (Report.read headers counter.headerName).invalid? =
      if decide (counter.IsRefused headers) then some (counter.refusal headers) else none := by
    by_cases refused : counter.IsRefused headers
    · rw [if_pos (decide_eq_true refused), Counter.invalid?_read_of_refused refused]
    · rw [if_neg (by simpa using refused), Counter.invalid?_read_of_not_refused refused]
  calc [Report.read headers samplesHeaderName, Report.read headers histogramsHeaderName,
          Report.read headers exemplarsHeaderName].filterMap Report.invalid?
      = (Counter.all.map fun counter => Report.read headers counter.headerName).filterMap
          Report.invalid? := rfl
    _ = Counter.all.filterMap fun counter =>
          if decide (counter.IsRefused headers) then some (counter.refusal headers) else none := by
        rw [List.filterMap_map]
        exact congrArg (List.filterMap · Counter.all) (funext reports)
    _ = _ := by rw [← List.filterMap_filter, List.filterMap_eq_map']

/-- Reading fails exactly if a header is refused. The error names every
refused header and carries what the others count. -/
theorem ofHeaders_eq (headers : Http.Headers) :
    ofHeaders headers =
      if (Counter.all.filter fun counter => counter.IsRefused headers) = [] then
        .ok (ofValidHeaders headers)
      else
        .error ⟨ofValidHeaders headers,
          (Counter.all.filter fun counter => counter.IsRefused headers).map
            (Counter.refusal headers)⟩ := by
  rw [ofHeaders, filterMap_invalid?, ofValidHeaders_eq]
  cases Counter.all.filter fun counter => counter.IsRefused headers with
  | nil => rfl
  | cons counter rest => rfl

/-- Every stats header is read by its first value alone. What the value
denotes counts, and nothing else does; any value that is not empty confirms the
stats; and those that are neither empty nor counters are listed in the order
of the counters, next to what the others count. -/
theorem ofHeaders_readings (headers : Http.Headers) :
    let stats := ofValidHeaders headers
    let refused := Counter.all.filter fun counter => counter.IsRefused headers
    (∀ counter : Counter,
      (∀ n, counter.Counts headers n → (counter.read stats).toNat = n) ∧
      ((∀ n, ¬ counter.Counts headers n) → counter.read stats = 0)) ∧
    (stats.confirmed = true ↔ ∃ (counter : Counter) (value : Bytes),
      headers.first? counter.headerName = some value ∧ value ≠ []) ∧
    (ofHeaders headers =
      if refused = [] then .ok stats
      else .error ⟨stats, refused.map (Counter.refusal headers)⟩) ∧
    ∀ (changed : Counter) (others : Http.Headers),
      (∀ name, name ≠ changed.headerName → others.values name = headers.values name) →
        ∀ counter, counter ≠ changed →
          counter.read (ofValidHeaders others) = counter.read stats := by
  intro stats refused
  refine ⟨fun counter => ⟨fun n counts => ?_, fun silent => ?_⟩, ?_, ofHeaders_eq headers, ?_⟩
  · rw [read_ofValidHeaders, Counter.counted_of_counts counts]
  · rw [← UInt64.toNat_inj, read_ofValidHeaders, Counter.counted_of_silent silent,
      UInt64.toNat_zero]
  · rw [confirmed_ofValidHeaders, List.any_eq_true]
    constructor
    · rintro ⟨counter, -, reported⟩
      obtain ⟨value, first, nonempty⟩ := Option.any_eq_true _ _ |>.mp reported
      exact ⟨counter, value, first, of_decide_eq_true nonempty⟩
    · rintro ⟨counter, value, first, nonempty⟩
      refine ⟨counter, counter.mem_all, ?_⟩
      rw [Counter.reported, first, Option.any_some, decide_eq_true nonempty]
  · intro changed others same counter other
    have name : counter.headerName ≠ changed.headerName :=
      Counter.headerName_injective.ne other
    rw [← UInt64.toNat_inj, read_ofValidHeaders, read_ofValidHeaders,
      Counter.counted_congr (same counter.headerName name)]

/-- A second value does not matter, and neither does the order of the
headers. -/
example :
    ofHeaders ⟨[(exemplarsHeaderName, Text.utf8 "-1"),
      (histogramsHeaderName, Text.utf8 "18446744073709551616"),
      (samplesHeaderName, Text.utf8 " \t+007 "), (samplesHeaderName, Text.utf8 "8")]⟩ =
      .error ⟨{ samples := 7, confirmed := true },
        [⟨histogramsHeaderName, "18446744073709551616"⟩, ⟨exemplarsHeaderName, "-1"⟩]⟩ := by
  decide +kernel

end WriteStats
end RemoteWrite
