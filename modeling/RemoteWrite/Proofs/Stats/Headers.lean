import RemoteWrite.Proofs.Http.Headers
import RemoteWrite.Proofs.Stats.Counter
import RemoteWrite.Proofs.Text.Numeral

/-!
Contract: stats that are written into headers are read back.

Owns:
- the values of the stats headers after stats were written;
- the stats that are read from them.

Does not own: headers of other origin.
-/

namespace RemoteWrite

namespace WriteStats

variable (stats : WriteStats) (headers : Http.Headers)

/-- The stats as a response reports them. -/
def confirm : WriteStats :=
  { stats with confirmed := true }

@[simp]
theorem read_confirm (counter : Counter) : counter.read stats.confirm = counter.read stats := by
  cases counter <;> rfl

/-- The digits of a counter, as a header value. -/
def written (counter : Counter) : Bytes :=
  Text.utf8 (Text.Numeral.render (counter.read stats).toNat)

theorem toHeaders_eq :
    stats.toHeaders headers =
      ((headers.insert Counter.samples.headerName (stats.written .samples)).insert
        Counter.histograms.headerName (stats.written .histograms)).insert
          Counter.exemplars.headerName (stats.written .exemplars) :=
  rfl

/-- Every stats header has one value, whatever the headers were. -/
theorem values_toHeaders (counter : Counter) :
    (stats.toHeaders headers).values counter.headerName = [stats.written counter] := by
  rw [toHeaders_eq]
  cases counter with
  | samples =>
      rw [Http.Headers.values_insert, if_neg (by decide), Http.Headers.values_insert,
        if_neg (by decide), Http.Headers.values_insert, if_pos rfl]
  | histograms =>
      rw [Http.Headers.values_insert, if_neg (by decide), Http.Headers.values_insert,
        if_pos rfl]
  | exemplars => rw [Http.Headers.values_insert, if_pos rfl]

/-- The values of every other name are left alone. -/
theorem values_toHeaders_other {name : String}
    (other : ∀ counter : Counter, counter.headerName ≠ name) :
    (stats.toHeaders headers).values name = headers.values name := by
  rw [toHeaders_eq, Http.Headers.values_insert, if_neg (other .exemplars),
    Http.Headers.values_insert, if_neg (other .histograms), Http.Headers.values_insert,
    if_neg (other .samples)]

theorem written_ne_nil (counter : Counter) : stats.written counter ≠ [] := by
  intro empty
  have shown := Text.Numeral.visible?_render (counter.read stats).toNat
  rw [written] at empty
  rw [empty] at shown
  have digits := congrArg (Option.map String.toList) shown
  rw [Text.Numeral.render, Option.map_some, String.toList_ofList] at digits
  exact Text.Numeral.digits_ne_nil _ (Option.some.inj digits).symm

theorem report_toHeaders (counter : Counter) :
    Report.read (stats.toHeaders headers) counter.headerName = .counter (counter.read stats) := by
  have first : (stats.toHeaders headers).first? counter.headerName =
      some (stats.written counter) := by
    rw [Http.Headers.first?, values_toHeaders, List.head?_cons]
  have shown : Text.visible? (stats.written counter) =
      some (Text.Numeral.render (counter.read stats).toNat) := Text.Numeral.visible?_render _
  rw [Report.read, first]
  cases value : stats.written counter with
  | nil => exact absurd value (written_ne_nil stats counter)
  | cons byte rest =>
      rw [value] at shown
      simp only [shown, Option.bind_some, Text.Numeral.render, String.toList_ofList,
        Text.Numeral.trim_digits, Text.Numeral.parseUInt64?_digits]

/-- Stats are read back from the headers they were written into, and they are
confirmed. -/
theorem ofHeaders_toHeaders :
    ofHeaders (stats.toHeaders headers) = .ok stats.confirm := by
  have samples := report_toHeaders stats headers .samples
  have histograms := report_toHeaders stats headers .histograms
  have exemplars := report_toHeaders stats headers .exemplars
  simp only [Counter.headerName, Counter.read] at samples histograms exemplars
  rw [ofHeaders, samples, histograms, exemplars]
  rfl

/-- Writing stats replaces every value that the stats headers had and touches
no other header; from the result the same stats are read, now confirmed. -/
theorem toHeaders_roundTrip :
    ofHeaders (stats.toHeaders headers) = .ok { stats with confirmed := true } ∧
    (∀ counter : Counter, (stats.toHeaders headers).values counter.headerName =
      [Text.utf8 (Text.Numeral.render (counter.read stats).toNat)]) ∧
    ∀ name, (∀ counter : Counter, name ≠ counter.headerName) →
      (stats.toHeaders headers).values name = headers.values name := by
  refine ⟨ofHeaders_toHeaders stats headers, values_toHeaders stats headers, ?_⟩
  intro name other
  exact values_toHeaders_other stats headers fun counter => (other counter).symm

end WriteStats
end RemoteWrite
