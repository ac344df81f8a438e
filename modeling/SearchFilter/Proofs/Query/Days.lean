import SearchFilter.Proofs.Condition.Dates
import SearchFilter.Proofs.Conditions

/-!
# The days that a query names

A condition about dates has the text of a dated lexeme, whether this stood in the query by itself or
between quotes.  So its sides are written dates, and each is read as the day that it means.

* `date_conditions_name_days`: the sides of every condition about dates in a query, the days that they
  name, and the one that is reported when it names no day.
* `year_before_month`: a side that is read with its year before its month.
-/

set_option autoImplicit false

namespace SearchFilter

open Text

/-- The text of a condition about dates in a query is that of a dated lexeme. -/
theorem Query.exists_lexeme_of_isDate {q : String} {condition : Condition}
    (h : condition ∈ (Query.parse (some q)).value) (hdate : condition.isDate = true) :
    ∃ l : Lexeme, l.category.isDated = true ∧ l.category.operator? = some condition.operator ∧
      l.IsWellFormed ∧ l.chars = condition.value.toList := by
  rw [Query.value_parse, buildConditions] at h
  exact exists_of_classify_isDate (NegationState.classify_of_mem_run h hdate) hdate

/-- **Every condition about dates in a query names days or says which of its sides is none.**  It has
two sides for a range and one otherwise, all of them dates written in one style; and either each side
means a day, and these are the days, or the first side that means none is reported. -/
theorem date_conditions_name_days (q : String) {condition : Condition}
    (h : condition ∈ (Query.parse (some q)).value) (hdate : condition.isDate = true) :
    ∃ ws : List WrittenDate,
      condition.sides = ws.map (fun w ↦ String.ofList w.chars) ∧
      ws.length = (if condition.operator = .betweenDates then 2 else 1) ∧
      (∀ w ∈ ws, w.isWellFormed = true) ∧
      (∀ v ∈ ws, ∀ w ∈ ws, v.form.style = w.form.style) ∧
      (∀ ds, condition.dates = .ok ds ↔ List.Forall₂ WrittenDate.Means ws ds) ∧
      ∀ e, condition.dates = .error e ↔
        ∃ before w after, ws = before ++ w :: after ∧ (∀ v ∈ before, ∃ d, v.Means d) ∧
          (∀ d, ¬w.Means d) ∧ e = .invalid (String.ofList w.chars) ∧
          e.message = "Invalid date: " ++ String.ofList w.chars := by
  obtain ⟨l, hl, hop, hwf, hvalue⟩ := Query.exists_lexeme_of_isDate h hdate
  refine ⟨l.writtenDates, Condition.sides_eq hl hwf hvalue, Lexeme.length_writtenDates hl hop,
    fun w hw ↦ Lexeme.isWellFormed_of_mem_writtenDates hwf hw,
    fun v hv w hw ↦ Lexeme.style_eq_of_mem_writtenDates hwf hv hw,
    fun ds ↦ Condition.dates_eq_ok_iff hl hwf hop hvalue, fun e ↦ ?_⟩
  rw [Condition.dates_eq_error_iff hl hwf hop hvalue]
  constructor
  · rintro ⟨before, w, after, hsplit, hbefore, hw, rfl⟩
    exact ⟨before, w, after, hsplit, hbefore, hw, rfl, rfl⟩
  · rintro ⟨before, w, after, hsplit, hbefore, hw, he, -⟩
    exact ⟨before, w, after, hsplit, hbefore, hw, he⟩

/-- A quoted range behind a negated word, to a day that does not exist. -/
theorem date_conditions_name_days_quoted_range :
    ∃ condition ∈ (Query.parse (some "-a \"1/15/2009\tTO 2/30/2009\"")).value,
      condition.isDate = true ∧ condition.sides.length = 2 ∧
      condition.dates = .error (.invalid "2/30/2009") ∧
      ∃ w : WrittenDate, w.isWellFormed = true ∧ String.ofList w.chars = "2/30/2009" ∧
        ∀ d, ¬w.Means d := by
  have hmem : (⟨"1/15/2009\tTO 2/30/2009", .betweenDates⟩ : Condition) ∈
      (Query.parse (some "-a \"1/15/2009\tTO 2/30/2009\"")).value := by decide
  have hdates : Condition.dates ⟨"1/15/2009\tTO 2/30/2009", .betweenDates⟩ =
      .error (.invalid "2/30/2009") := by decide
  obtain ⟨ws, hsides, hlength, hwf, -, -, herror⟩ := date_conditions_name_days _ hmem rfl
  obtain ⟨before, w, after, rfl, -, hw, he, -⟩ := (herror _).1 hdates
  refine ⟨_, hmem, rfl, ?_, hdates, w, hwf w (by simp), (Date.Error.invalid.inj he).symm, hw⟩
  rw [hsides, List.length_map, hlength]
  rfl

/-- The first number is neither month nor day, and the date is read with the year first. -/
theorem year_before_month :
    ∃ (condition : Condition) (w : WrittenDate),
      (Query.parse (some "32/01/0031")).value = [condition] ∧ condition.isDate = true ∧
      condition.sides = [String.ofList w.chars] ∧ w.isWellFormed = true ∧ w.form = .monthFirst ∧
      (∀ d, ¬w.Writes d ∧ ¬w.WritesDayFirst d) ∧
      condition.dates = .ok [⟨32, 1, 31, by decide⟩] := by
  refine ⟨⟨"32/01/0031", .asOfDate⟩, ⟨.monthFirst, "32".toList, "01".toList, "0031".toList⟩,
    by decide, rfl, by decide, by decide, rfl, fun d ↦ ⟨fun hd ↦ ?_, fun hd ↦ ?_⟩, by decide⟩
  · have hfirst : decimalValue "32".toList = d.month := hd.2.1
    have hvalue : decimalValue "32".toList = 32 := by decide
    have hmonth := d.month_le
    omega
  · have hfirst : decimalValue "32".toList = d.day := hd.2.2.1
    have hvalue : decimalValue "32".toList = 32 := by decide
    have hday := d.day_le
    omega

end SearchFilter
