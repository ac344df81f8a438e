import SearchFilter.Proofs.Conditions
import SearchFilter.Proofs.Lexeme.Precedence

/-!
# The dates of a query

A date is recognised twice, once where it stands in a query and once more in the text that cleaning
leaves of it.  The two agree.

* `scan_chars_of_isDated`: the text of a dated lexeme is one lexeme when it is a query.
* `scan_of_classify_isDate`: a text that is classified as a date is one lexeme when it is a query.
* `dates_agree`: a dated lexeme gets the operator of its category, and what is classified as a date
  gives one condition with that operator.
-/

set_option autoImplicit false

namespace SearchFilter

theorem Lexeme.not_isJoinedTo_nil (l : Lexeme) : ¬l.IsJoinedTo [] := by
  cases l <;> simp [IsJoinedTo, takeConnective?, takeBlanks]

/-- The text of a dated lexeme is that one lexeme when it is a query. -/
theorem scan_chars_of_isDated {l : Lexeme} (hl : l.category.isDated = true)
    (hwf : l.IsWellFormed) : scan l.chars = [⟨0, l⟩] := by
  have htake : Lexeme.take? none (l.chars ++ []) = some (l, []) :=
    Lexeme.take?_chars_append hwf l.mayFollow_none l.endsBefore_nil
      (fun hnot ↦ absurd hl (by simp [hnot])) l.not_isJoinedTo_nil
  rw [List.append_nil] at htake
  exact scan_chars htake

/-- A text that is classified as a date is one lexeme when it is a query. -/
theorem scan_of_classify_isDate {cs : List Char} {op : Operator} (h : classify cs = some op)
    (hop : op.isDate = true) :
    ∃ l : Lexeme, scan cs = [⟨0, l⟩] ∧ l.chars = cs ∧ l.IsWellFormed ∧
      l.category.isDated = true ∧ l.category.operator? = some op := by
  obtain ⟨l, hl, hlop, hwf, rfl⟩ := exists_of_classify_isDate h hop
  exact ⟨l, scan_chars_of_isDated hl hwf, rfl, hwf, hl, hlop⟩

/-- **Dates are read as they are classified**: a dated lexeme of a query is classified by its
category, and a text that is classified as a date is read as that one date. -/
theorem dates_agree :
    (∀ q : String, ∀ o ∈ scan q.toList, o.lexeme.category.isDated = true →
      ∃ op, o.lexeme.category.operator? = some op ∧ op.isDate = true ∧
        classify (clean o.lexeme.chars) = some op) ∧
    ∀ (t : String) (op : Operator), t.length ≤ Query.maxLength → classify t.toList = some op →
      op.isDate = true → (Query.parse (some t)).value = [⟨String.ofList (clean t.toList), op⟩] := by
  refine ⟨fun q o ho hl ↦ ?_, fun t op ht hclass hop ↦ ?_⟩
  · obtain ⟨op, hop, hdate⟩ := Category.exists_operator_of_isDated hl
    refine ⟨op, hop, hdate, ?_⟩
    rw [classify_clean_chars_of_isDated hl ((walk_scan _).mem_isWellFormed ho), hop]
  · obtain ⟨l, hscan, hchars, hwf, hl, hlop⟩ := scan_of_classify_isDate hclass hop
    have hclean : classify (clean l.chars) = some op := by
      rw [classify_clean_chars_of_isDated hl hwf, hlop]
    have hneg := Lexeme.isNegated_eq_false_of_isDated hl
    rw [Query.value_parse_of_length_le ht, tokenize, hscan, List.flatMap_singleton,
      buildConditions, NegationState.run_tokens_of_classify hneg hclean, hchars]

/-- The one lexeme of this query is a range, and it is one when it stands behind another text. -/
theorem dates_agree_range :
    (∃ op, classify (clean "2024-01-05\tTO  2024-2-9".toList) = some op ∧ op.isDate = true) ∧
      (Query.parse (some "2024-01-05\tTO  2024-2-9")).value =
        [⟨"2024-01-05\tTO 2024-2-9", .betweenDates⟩] := by
  have hocc : (⟨2, .dateRange ⟨.dashed, "2024".toList, "01".toList, "05".toList⟩ ['\t'] [' ', ' ']
      ⟨.dashed, "2024".toList, "2".toList, "9".toList⟩⟩ : Occurrence) ∈
        scan "x 2024-01-05\tTO  2024-2-9".toList := by
    decide +kernel
  obtain ⟨op, -, hdate, hclass⟩ := dates_agree.1 _ _ hocc rfl
  refine ⟨⟨op, hclass, hdate⟩, ?_⟩
  exact dates_agree.2 "2024-01-05\tTO  2024-2-9" .betweenDates (by decide) (by decide +kernel) rfl

end SearchFilter
