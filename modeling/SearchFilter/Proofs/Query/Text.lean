import SearchFilter.Proofs.Conditions

/-!
# The text of a query in its conditions

What can be searched for is made of word characters.  They all reach the conditions, each once and
in order; of the other characters some are lost, but none is added.

* `parse_keeps_text`: the values of the conditions, one behind the other, are the query without some
  characters that are no word characters, and each value is fit to be searched for.
-/

set_option autoImplicit false

namespace SearchFilter

open Unicode

/-- The texts of the conditions of a query. -/
def Query.values (q : String) : List (List Char) :=
  (parse (some q)).value.map (·.value.toList)

theorem Query.values_eq (q : String) :
    values q = ((scan (q.toList.take maxLength)).map fun o ↦ clean o.lexeme.chars).filter
      (!·.isEmpty) := by
  rw [← map_value_buildConditions, ← value_parse, values]

theorem Query.flatten_values (q : String) :
    (values q).flatten =
      (scan (q.toList.take maxLength)).flatMap fun o ↦ clean o.lexeme.chars := by
  rw [values_eq, List.flatten_filter_not_isEmpty, List.flatMap_def]

/-- The values are the query without some of its characters. -/
theorem Query.flatten_values_sublist (q : String) :
    (values q).flatten.Sublist (q.toList.take maxLength) := by
  rw [flatten_values]
  exact (List.Sublist.flatMap_right _ fun o _ ↦ clean_sublist o.lexeme.chars).trans
    (walk_scan _).chars_sublist

/-- **Nothing that can be searched for is lost, added or moved.** -/
theorem parse_keeps_text (q : String) :
    (Query.values q).flatten.Sublist (q.toList.take Query.maxLength) ∧
      (Query.values q).flatten.filter isWordChar =
        (q.toList.take Query.maxLength).filter isWordChar ∧
      ∀ v ∈ Query.values q, v ≠ [] ∧ '"' ∉ v ∧ ¬[' ', ' '] <:+: v := by
  have hwalk := walk_scan (q.toList.take Query.maxLength)
  refine ⟨Query.flatten_values_sublist q, ?_, fun v hv ↦ ?_⟩
  · rw [Query.flatten_values, ← hwalk.filter_isWordChar, List.filter_flatMap, List.filter_flatMap]
    simp only [filter_isWordChar_clean]
  · rw [Query.values_eq, List.mem_filter, List.mem_map] at hv
    obtain ⟨⟨o, -, rfl⟩, hne⟩ := hv
    exact ⟨by simpa using hne, quote_not_mem_clean _, not_infix_clean _⟩

theorem parse_keeps_text_phrase :
    ['a', ' ', 'b'] ∈ Query.values "-\"a  -b\" c" ∧ ¬[' ', ' '] <:+: ['a', ' ', 'b'] := by
  have hmem : ['a', ' ', 'b'] ∈ Query.values "-\"a  -b\" c" := by
    decide +kernel
  exact ⟨hmem, ((parse_keeps_text "-\"a  -b\" c").2.2 _ hmem).2.2⟩

end SearchFilter
