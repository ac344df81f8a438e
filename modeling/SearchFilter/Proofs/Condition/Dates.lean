import SearchFilter.Proofs.Chain
import SearchFilter.Proofs.Classification
import SearchFilter.Proofs.Date.Reading

/-!
# The days that a condition names

The value of a date condition is the text of a dated lexeme.  Cut at its connective it falls into the
dates of the lexeme again, and each of them is read as the day that it means.

* `Lexeme.writtenDates` lists the dates of a lexeme, `Lexeme.splitRange_chars` finds them in its text.
* `Condition.sides_eq`: the sides of a condition of this text are the dates.
* `Condition.dates_eq_ok_iff` and `Condition.dates_eq_error_iff`: the days that it names, or the first
  date that is no day.
-/

set_option autoImplicit false

namespace SearchFilter

open Unicode Text

/-! ## The sides of a condition -/

/-- The dates of a lexeme, in the order of writing. -/
def Lexeme.writtenDates : Lexeme → List WrittenDate
  | dateRange first _ _ last => [first, last]
  | comparedDate _ _ d | date d => [d]
  | _ => []

@[simp]
theorem Lexeme.writtenDates_tidy (l : Lexeme) : l.tidy.writtenDates = l.writtenDates := by
  cases l <;> rfl

theorem splitRange_skip (xs ys : List Char) :
    splitRange xs.length (xs ++ ys) = splitRange 0 ys := by
  induction xs with
  | nil => rfl
  | cons x xs ih => rw [List.length_cons, List.cons_append, splitRange, ih]

/-- No connective starts where no blank stands. -/
theorem splitRange_append {xs : List Char} (h : ∀ c ∈ xs, isBlank c = false)
    {ys piece : List Char} {pieces : List (List Char)} (hys : splitRange 0 ys = piece :: pieces) :
    splitRange 0 (xs ++ ys) = (xs ++ piece) :: pieces := by
  induction xs with
  | nil => exact hys
  | cons x xs ih =>
    obtain ⟨hx, hxs⟩ := List.forall_mem_cons.1 h
    have hnone : takeConnective? ['T', 'O'] (x :: (xs ++ ys)) = none := by
      simp [takeConnective?, takeBlanks, hx]
    rw [List.cons_append, splitRange, hnone]
    simp only
    rw [ih hxs]
    rfl

theorem splitRange_connective {gap gap' rest : List Char} (hgap : IsGap gap) (hgap' : IsGap gap')
    (hrest : startsWithBlank rest = false) :
    splitRange 0 (gap ++ ['T', 'O'] ++ gap' ++ rest) = [] :: splitRange 0 rest := by
  have htake : takeConnective? ['T', 'O'] (gap ++ ['T', 'O'] ++ gap' ++ rest) =
      some (gap, gap', rest) :=
    (takeConnective?_eq_some_iff (by decide)).2 ⟨hgap, hgap', hrest, rfl⟩
  obtain ⟨b, bs, rfl⟩ := List.exists_cons_of_ne_nil hgap.1
  have hlength : (b :: bs).length + gap'.length + 1 = (bs ++ ['T', 'O'] ++ gap').length := by
    simp only [List.length_cons, List.length_append, List.length_nil]
    omega
  simp only [List.cons_append] at htake ⊢
  rw [splitRange, htake]
  simp only
  rw [hlength, splitRange_skip]

theorem WrittenDate.splitRange_chars {w : WrittenDate} (h : w.isWellFormed = true) :
    splitRange 0 w.chars = [w.chars] := by
  have hnil : splitRange 0 [] = [[]] := rfl
  have hsplit := splitRange_append (w.isBlank_eq_false h) hnil
  rwa [List.append_nil] at hsplit

theorem WrittenDate.dropComparison_chars_append {w : WrittenDate} (h : w.isWellFormed = true)
    (rest : List Char) : dropComparison (w.chars ++ rest) = w.chars ++ rest := by
  obtain ⟨c, cs, hcs, hc⟩ := w.exists_cons h
  have hsign := ne_sign_of_isDigit hc
  rw [hcs, List.cons_append]
  unfold dropComparison
  split
  · next heq =>
    obtain ⟨rfl, rfl⟩ := List.cons.inj heq
    rw [if_neg (by simp [hsign.1, hsign.2])]
  · next heq => exact absurd heq (List.cons_ne_nil _ _)

theorem dropComparison_sign_append {gap : List Char} {w : WrittenDate}
    (hgap : ∀ c ∈ gap, isBlank c = true) (hw : w.isWellFormed = true) (comparison : Comparison) :
    dropComparison (comparison.sign ++ gap ++ w.chars) = w.chars := by
  have htrim : trimStart (gap ++ w.chars) = w.chars := by
    have hhead := w.startsWithBlank_chars_append hw []
    rw [List.append_nil] at hhead
    exact dropWhile_append_of_stop hgap hhead
  have hne := head?_gap_append_ne_equals hgap hw []
  rw [List.append_nil] at hne
  have hshort : ∀ c, c = '<' ∨ c = '>' → dropComparison (c :: (gap ++ w.chars)) = w.chars := by
    intro c hc
    have hequals : ∀ rest, gap ++ w.chars ≠ '=' :: rest := fun rest hrest ↦
      hne (by rw [hrest]; rfl)
    rw [dropComparison, if_pos (by simpa using hc), htrim]
    exact hequals
  cases comparison with
  | atLeast => exact htrim
  | atMost => exact htrim
  | moreThan => exact hshort '>' (.inr rfl)
  | lessThan => exact hshort '<' (.inl rfl)

/-- **The text of a dated lexeme falls into its dates.** -/
theorem Lexeme.splitRange_chars {l : Lexeme} (hl : l.category.isDated = true)
    (h : l.IsWellFormed) :
    splitRange 0 (dropComparison (trim l.chars)) = l.writtenDates.map (·.chars) := by
  have htrim : trim l.chars = l.chars := by
    have hhead := Lexeme.startsWithBlank_chars_append h []
    rw [List.append_nil] at hhead
    exact trim_eq_self hhead (l.isBlank_getLast? h)
  rw [htrim]
  cases l with
  | dateRange first gap gap' last =>
    obtain ⟨hfirst, hlast, -, hgap, hgap'⟩ := h
    have hstop := last.startsWithBlank_chars_append hlast []
    rw [List.append_nil] at hstop
    have hsplit := splitRange_append (first.isBlank_eq_false hfirst)
      (splitRange_connective hgap hgap' hstop)
    have hchars : (dateRange first gap gap' last).chars =
        first.chars ++ (gap ++ ['T', 'O'] ++ gap' ++ last.chars) := by simp [chars]
    rw [hchars, first.dropComparison_chars_append hfirst, hsplit, last.splitRange_chars hlast,
      List.append_nil]
    rfl
  | comparedDate comparison gap d =>
    rw [chars, dropComparison_sign_append h.1 h.2, d.splitRange_chars h.2]
    rfl
  | date d =>
    have hdrop := d.dropComparison_chars_append h []
    rw [List.append_nil] at hdrop
    rw [chars, hdrop, d.splitRange_chars h]
    rfl
  | _ => exact absurd hl (by simp [category, Category.isDated])

theorem Lexeme.isWellFormed_of_mem_writtenDates {l : Lexeme} (h : l.IsWellFormed) {w : WrittenDate}
    (hw : w ∈ l.writtenDates) : w.isWellFormed = true := by
  cases l with
  | dateRange first gap gap' last =>
    rcases List.mem_pair.1 hw with rfl | rfl
    · exact h.1
    · exact h.2.1
  | comparedDate comparison gap d =>
    rw [List.mem_singleton.1 hw]
    exact h.2
  | date d =>
    rw [List.mem_singleton.1 hw]
    exact h
  | _ => exact absurd hw List.not_mem_nil

/-- A range has two dates, every other dated lexeme one. -/
theorem Lexeme.length_writtenDates {l : Lexeme} {op : Operator} (hl : l.category.isDated = true)
    (hop : l.category.operator? = some op) :
    l.writtenDates.length = if op = .betweenDates then 2 else 1 := by
  cases l with
  | dateRange first gap gap' last =>
    obtain rfl : Operator.betweenDates = op := Option.some.inj hop
    rfl
  | comparedDate comparison gap d =>
    obtain rfl : Operator.compared comparison = op := Option.some.inj hop
    rfl
  | date d =>
    obtain rfl : Operator.asOfDate = op := Option.some.inj hop
    rfl
  | _ => exact absurd hl (by simp [category, Category.isDated])

/-- The dates of a lexeme are of one style. -/
theorem Lexeme.style_eq_of_mem_writtenDates {l : Lexeme} (h : l.IsWellFormed) {v w : WrittenDate}
    (hv : v ∈ l.writtenDates) (hw : w ∈ l.writtenDates) : v.form.style = w.form.style := by
  cases l with
  | dateRange first gap gap' last =>
    obtain ⟨-, -, hstyle, -⟩ := h
    rcases List.mem_pair.1 hv with rfl | rfl <;> rcases List.mem_pair.1 hw with rfl | rfl
    · rfl
    · exact hstyle
    · exact hstyle.symm
    · rfl
  | comparedDate comparison gap d | date d =>
    rw [List.mem_singleton.1 hv, List.mem_singleton.1 hw]
  | _ => exact absurd hv List.not_mem_nil

/-! ## Reading the sides -/

namespace Condition

variable {l : Lexeme} {condition : Condition}

theorem isDate_of_isDated (hl : l.category.isDated = true)
    (hop : l.category.operator? = some condition.operator) : condition.isDate = true := by
  obtain ⟨op, hop', hdate⟩ := Category.exists_operator_of_isDated hl
  obtain rfl : condition.operator = op := Option.some.inj (hop.symm.trans hop')
  exact hdate

theorem dates_eq (h : condition.isDate = true) :
    condition.dates = condition.sides.mapM Date.ofText :=
  if_pos h

/-- The sides of a condition with the text of a dated lexeme are the dates of the lexeme. -/
theorem sides_eq (hl : l.category.isDated = true) (hwf : l.IsWellFormed)
    (hvalue : l.chars = condition.value.toList) :
    condition.sides = l.writtenDates.map fun w ↦ String.ofList w.chars := by
  rw [sides, ← hvalue, l.splitRange_chars hl hwf, List.map_map]
  rfl

/-- **A condition with the text of a dated lexeme names the days** that its dates mean. -/
theorem dates_eq_ok_iff (hl : l.category.isDated = true) (hwf : l.IsWellFormed)
    (hop : l.category.operator? = some condition.operator)
    (hvalue : l.chars = condition.value.toList) {ds : List Date} :
    condition.dates = .ok ds ↔ List.Forall₂ WrittenDate.Means l.writtenDates ds := by
  have hws : ∀ w ∈ l.writtenDates, w.isWellFormed = true := fun _ ↦
    Lexeme.isWellFormed_of_mem_writtenDates hwf
  rw [dates_eq (isDate_of_isDated hl hop), sides_eq hl hwf hvalue, List.mapM_map,
    mapM_eq_ok_iff]
  simp only [Function.comp_apply]
  constructor <;> intro h
  · refine ((List.forall₂_and_left _ _).2 ⟨hws, h⟩).imp fun w d ⟨hw, hd⟩ ↦ ?_
    exact (Date.ofText_eq_ok_iff hw).1 hd
  · refine ((List.forall₂_and_left _ _).2 ⟨hws, h⟩).imp fun w d ⟨hw, hd⟩ ↦ ?_
    exact (Date.ofText_eq_ok_iff hw).2 hd

/-- **It names no days** when one of its dates means none; the first of these is reported. -/
theorem dates_eq_error_iff (hl : l.category.isDated = true) (hwf : l.IsWellFormed)
    (hop : l.category.operator? = some condition.operator)
    (hvalue : l.chars = condition.value.toList) {e : Date.Error} :
    condition.dates = .error e ↔
      ∃ before w after, l.writtenDates = before ++ w :: after ∧
        (∀ v ∈ before, ∃ d, v.Means d) ∧ (∀ d, ¬w.Means d) ∧
        e = .invalid (String.ofList w.chars) := by
  have hws : ∀ w ∈ l.writtenDates, w.isWellFormed = true := fun _ ↦
    Lexeme.isWellFormed_of_mem_writtenDates hwf
  rw [dates_eq (isDate_of_isDated hl hop), sides_eq hl hwf hvalue, List.mapM_map,
    mapM_eq_error_iff]
  refine exists_congr fun before ↦ exists_congr fun w ↦ exists_congr fun after ↦
    and_congr_right fun hsplit ↦ ?_
  rw [hsplit] at hws
  obtain ⟨hbefore, hafter⟩ := List.forall_mem_append.1 hws
  simp only [Function.comp_apply]
  rw [Date.ofText_eq_error_iff (hafter w List.mem_cons_self)]
  refine and_congr_left fun _ ↦ forall₂_congr fun v hv ↦ exists_congr fun d ↦ ?_
  rw [Date.ofText_eq_ok_iff (hbefore v hv)]

/-- **A condition with the text of a dated lexeme names the days that its dates write.** -/
theorem dates_chars {op : Operator} {ds : List Date} (hop : l.category.operator? = some op)
    (hl : l.category.isDated = true) (hwf : l.IsWellFormed)
    (h : List.Forall₂ WrittenDate.Writes l.writtenDates ds) :
    Condition.dates ⟨String.ofList l.chars, op⟩ = .ok ds :=
  (dates_eq_ok_iff hl hwf hop (String.toList_ofList).symm).2 (h.imp fun _ _ ↦ .inl)

end Condition
end SearchFilter
