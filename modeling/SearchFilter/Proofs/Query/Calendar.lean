import SearchFilter.Proofs.Condition.Dates
import SearchFilter.Proofs.Query.Dates

/-!
# Days of the calendar in queries

A day that is written in a query comes back from it, in whatever form it was written, with or
without a comparison, and so do the two days of a range.

* `parse_dated`: a query that is a dated lexeme gives one condition, which names the days that its
  dates write.
* `calendar_days_survive`: days on their own, compared days, ranges, and days written as year, month
  and day with hyphens.
-/

set_option autoImplicit false

namespace SearchFilter

open Unicode

/-- **A query that is one dated lexeme**, with blanks before it or without, gives one condition, and
this names the days that the dates of the lexeme write. -/
theorem parse_dated {l : Lexeme} {op : Operator} {ds : List Date} (blanks : List Char)
    (hop : l.category.operator? = some op) (hl : l.category.isDated = true) (hwf : l.IsWellFormed)
    (hblanks : ∀ b ∈ blanks, isBlank b = true)
    (hlen : (blanks ++ l.chars).length ≤ Query.maxLength)
    (h : List.Forall₂ WrittenDate.Writes l.writtenDates ds) :
    ∃ condition, (Query.parse (some (String.ofList (blanks ++ l.chars)))).value = [condition] ∧
      condition.operator = op ∧ condition.dates = .ok ds := by
  have hskip : ∀ b ∈ blanks, ∀ category : Category, category.opensWith b = false :=
    fun b hb ↦ Category.opensWith_eq_false_of_isBlank (hblanks b hb)
  have hprev : dateMayFollow none = true := rfl
  obtain ⟨os, hwalk, hos⟩ := exists_walk_skip hskip (.inl hprev) 0 l.chars
  rw [scan_chars_of_isDated hl hwf, List.map_singleton] at hos
  have htokens : tokenize (blanks ++ l.chars) = l.tokens := by
    have hscan : scan (blanks ++ l.chars) = os := (walk_iff.1 hwalk).symm
    rw [tokenize_eq_flatMap, hscan, hos, List.flatMap_singleton]
  have hclass : classify (clean l.chars) = some op := by
    rw [classify_clean_chars_of_isDated hl hwf, hop]
  refine ⟨⟨String.ofList (clean l.chars), op⟩, ?_, rfl, ?_⟩
  · rw [Query.value_parse_of_length_le (by rwa [String.length_ofList]), String.toList_ofList,
      htokens, buildConditions,
      NegationState.run_tokens_of_classify (Lexeme.isNegated_eq_false_of_isDated hl) hclass]
  · rw [clean_chars_of_isDated hl hwf]
    exact Condition.dates_chars (by rwa [Lexeme.category_tidy]) (by rwa [Lexeme.category_tidy])
      (Lexeme.isWellFormed_tidy hwf) (by rwa [Lexeme.writtenDates_tidy])

/-- **Days of the calendar survive being written and read**: a day on its own or behind a comparison,
in any form and with any blanks before it, the two days of a range in one style, and the day that a
report writes. -/
theorem calendar_days_survive :
    (∀ (w : WrittenDate) (d : Date) (comparison : Option Comparison) (gap : List Char),
      w.Writes d → (∀ b ∈ gap, isBlank b = true) →
      (comparison.elim [] (·.sign) ++ gap ++ w.chars).length ≤ Query.maxLength →
      ∃ condition,
        (Query.parse (some (String.ofList (comparison.elim [] (·.sign) ++ gap ++ w.chars)))).value =
          [condition] ∧
        condition.operator = comparison.elim .asOfDate .compared ∧ condition.dates = .ok [d]) ∧
    (∀ (first last : WrittenDate) (d d' : Date) (gap gap' : List Char),
      first.Writes d → last.Writes d' → first.form.style = last.form.style →
      IsGap gap → IsGap gap' →
      (first.chars ++ gap ++ ['T', 'O'] ++ gap' ++ last.chars).length ≤ Query.maxLength →
      ∃ condition,
        (Query.parse (some (String.ofList
          (first.chars ++ gap ++ ['T', 'O'] ++ gap' ++ last.chars)))).value = [condition] ∧
        condition.operator = .betweenDates ∧ condition.dates = .ok [d, d']) ∧
    ∀ d : Date, Date.ofText d.isoText = .ok d := by
  have hnone : ∀ b ∈ ([] : List Char), isBlank b = true := fun _ hb ↦ absurd hb List.not_mem_nil
  refine ⟨fun w d comparison gap hw hgap hlen ↦ ?_,
    fun first last d d' gap gap' hfirst hlast hstyle hgap hgap' hlen ↦ ?_, Date.ofText_isoText⟩
  · cases comparison with
    | none =>
      exact parse_dated (l := .date w) gap rfl rfl hw.1 hgap hlen (.cons hw .nil)
    | some comparison =>
      exact parse_dated (l := .comparedDate comparison gap w) [] rfl rfl ⟨hgap, hw.1⟩ hnone hlen
        (.cons hw .nil)
  · exact parse_dated (l := .dateRange first gap gap' last) [] rfl rfl
      ⟨hfirst.1, hlast.1, hstyle, hgap, hgap'⟩ hnone hlen (.cons hfirst (.cons hlast .nil))

/-- A leap day behind a sign and a tab, and a range of short and of compact fields. -/
theorem calendar_days_survive_leap_day :
    (∃ condition, (Query.parse (some "<=\t2/29/2000")).value = [condition] ∧
      condition.operator = .compared .atMost ∧ condition.dates = .ok [⟨2000, 2, 29, by decide⟩]) ∧
    ∃ condition, (Query.parse (some "0012/1/5 TO  00120206")).value = [condition] ∧
      condition.operator = .betweenDates ∧
      condition.dates = .ok [⟨12, 1, 5, by decide⟩, ⟨12, 2, 6, by decide⟩] := by
  have hleap : (Date.write ⟨2000, 2, 29, by decide⟩ .monthFirst 1 2).Writes
      ⟨2000, 2, 29, by decide⟩ :=
    Date.writes_write _ (by decide) (by decide) (by decide)
  have hfirst : (Date.write ⟨12, 1, 5, by decide⟩ .yearFirst 1 1).Writes ⟨12, 1, 5, by decide⟩ :=
    Date.writes_write _ (by decide) (by decide) (by decide)
  have hlast : (Date.write ⟨12, 2, 6, by decide⟩ .compact 2 2).Writes ⟨12, 2, 6, by decide⟩ :=
    Date.writes_write _ (by decide) (by decide) (by decide)
  have hblank : ∀ b ∈ ['\t'], isBlank b = true := List.all_eq_true.1 rfl
  have hcompared := calendar_days_survive.1 _ _ (some .atMost) ['\t'] hleap hblank (by decide)
  have hrange := calendar_days_survive.2.1 _ _ _ _ [' '] [' ', ' '] hfirst hlast rfl (by decide)
    (by decide) (by decide)
  exact ⟨hcompared, hrange⟩

end SearchFilter
