import RemoteWrite.Http.Headers

/-!
Contract: the values of a name after header lists were changed.

Owns: the values after removing, appending, inserting, and merging.

Does not own: the order of fields of different names.
-/

namespace RemoteWrite.Http.Headers

variable (headers : Headers) (name other : String) (value : Bytes)

theorem values_append :
    (headers.append name value).values other =
      headers.values other ++ if name = other then [value] else [] := by
  rw [append, values, values, List.filter_append, List.map_append]
  by_cases same : name = other
  · rw [if_pos same, List.filter_cons, decide_eq_true same]
    rfl
  · rw [if_neg same, List.filter_cons, decide_eq_false same]
    rfl

theorem values_remove :
    (headers.remove name).values other = if name = other then [] else headers.values other := by
  rw [remove, values, values, List.filter_filter]
  by_cases same : name = other
  · rw [if_pos same, List.filter_eq_nil_iff.mpr, List.map_nil]
    intro field _ kept
    simp only [Bool.and_eq_true, decide_eq_true_eq, decide_not, Bool.not_eq_true',
      decide_eq_false_iff_not] at kept
    exact kept.2 (kept.1.trans same.symm)
  · rw [if_neg same]
    refine congrArg _ (List.filter_congr fun field _ => ?_)
    by_cases found : field.1 = other
    · have elsewhere : field.1 ≠ name := fun equal => same (equal.symm.trans found)
      rw [decide_eq_true found, decide_eq_true elsewhere, Bool.and_true]
    · rw [decide_eq_false found, Bool.false_and]

theorem values_insert :
    (headers.insert name value).values other =
      if name = other then [value] else headers.values other := by
  rw [insert, values_append, values_remove]
  by_cases same : name = other
  · rw [if_pos same, if_pos same, if_pos same, List.nil_append]
  · rw [if_neg same, if_neg same, if_neg same, List.append_nil]

/-! ## Merging -/

theorem contains_eq_false_iff : headers.contains name = false ↔ headers.values name = [] := by
  rw [contains, values, List.map_eq_nil_iff, List.filter_eq_nil_iff, List.any_eq_false]

/-- A name that occurs in the second list has the values of that list. -/
theorem values_extend (others : Headers) :
    (headers.extend others).values name =
      if others.values name = [] then headers.values name else others.values name := by
  have split : (headers.extend others).values name =
      (headers.fields.filter fun field =>
        decide (field.1 = name) && !others.contains field.1).map (·.2) ++ others.values name := by
    rw [extend, values, List.filter_append, List.map_append, List.filter_filter, values]
  rw [split]
  by_cases absent : others.values name = []
  · have own : headers.fields.filter (fun field =>
        decide (field.1 = name) && !others.contains field.1) =
          headers.fields.filter fun field => field.1 = name := by
      refine List.filter_congr fun field _ => ?_
      by_cases named : field.1 = name
      · rw [named, (contains_eq_false_iff others name).mpr absent, Bool.not_false, Bool.and_true]
      · rw [decide_eq_false named, Bool.false_and]
    rw [if_pos absent, own, absent, List.append_nil, values]
  · have dropped : headers.fields.filter (fun field =>
        decide (field.1 = name) && !others.contains field.1) = [] := by
      rw [List.filter_eq_nil_iff]
      intro field _ keeps
      rw [Bool.and_eq_true, decide_eq_true_eq, Bool.not_eq_true'] at keeps
      rw [keeps.1, contains_eq_false_iff] at keeps
      exact absent keeps.2
    rw [if_neg absent, dropped, List.map_nil, List.nil_append]

end RemoteWrite.Http.Headers
