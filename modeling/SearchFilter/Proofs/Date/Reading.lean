import SearchFilter.Condition.Dates
import SearchFilter.Proofs.Lexeme.Precedence
import SearchFilter.Proofs.Lexeme.Separator

/-!
# The day that a written date is read as

The numbers of a date stand in the order of its form.  They are read in another order when slashes are
between them, a year is at the end and the first number is too large for a month, and in a third one
when it is too large for a day.

* `WrittenDate.Writes` says which day a written date writes, `Date.write` writes a day.
* `WrittenDate.WritesDayFirst` and `WrittenDate.WritesYearFirst` are the other two orders, and
  `WrittenDate.Means` is any of the three.
* `WrittenDate.date?_eq_some_iff`, `Date.ofText_eq_ok_iff`, `Date.ofText_eq_error_iff`: a written date is
  read as the day that it means.
* `Date.ofText_isoText`: the day that a report writes is read again.
* `Date.ofText_monthFirst`: how a date of the month-first form is read, and when that is not as its form
  says.
* `Date.ofText_day_before_month`: a date whose day is read before its month.
-/

set_option autoImplicit false

namespace SearchFilter

open Unicode Text

/-! ## Writing days -/

/-- Whether a written date writes a day: in the order of its form, the groups are the numbers of its
year, month and day. -/
def WrittenDate.Writes (w : WrittenDate) (d : Date) : Prop :=
  w.isWellFormed = true ∧
    match w.form with
    | .monthFirst =>
      decimalValue w.first = d.month ∧ decimalValue w.second = d.day ∧ decimalValue w.third = d.year
    | .yearFirst | .compact | .dashed =>
      decimalValue w.first = d.year ∧ decimalValue w.second = d.month ∧ decimalValue w.third = d.day

/-- A day written in a form, with so many digits for month and day. -/
def Date.write (d : Date) (form : DateForm) (monthWidth dayWidth : Nat) : WrittenDate :=
  let year := padded 10 4 d.year
  let month := padded 10 monthWidth d.month
  let day := padded 10 dayWidth d.day
  match form with
  | .monthFirst => ⟨form, month, day, year⟩
  | .yearFirst | .compact | .dashed => ⟨form, year, month, day⟩

theorem isDigit_of_mem_padded {width n : Nat} {c : Char} (h : c ∈ padded 10 width n) :
    isDigit c = true := by
  have hdigit : ∀ v < 10, isDigit (digitChar v) = true := by decide
  induction width generalizing n with
  | zero => exact absurd h List.not_mem_nil
  | succ width ih =>
    rcases List.mem_append.1 h with h | h
    · exact ih h
    · rw [List.mem_singleton.1 h]
      exact hdigit _ (Nat.mod_lt _ (by decide))

theorem decimalValue_padded_of_lt {width n : Nat} (h : n < Nat.pow 10 width) :
    decimalValue (padded 10 width n) = n := by
  rw [decimalValue_padded, Nat.mod_eq_of_lt h]

/-- **A day can be written in every form**, with as many digits as it needs and the form allows. -/
theorem Date.writes_write (d : Date) {form : DateForm} {monthWidth dayWidth : Nat}
    (hmonth : d.month < Nat.pow 10 monthWidth) (hday : d.day < Nat.pow 10 dayWidth)
    (hwidths : if form = .compact then monthWidth = 2 ∧ dayWidth = 2
      else (monthWidth = 1 ∨ monthWidth = 2) ∧ (dayWidth = 1 ∨ dayWidth = 2)) :
    (d.write form monthWidth dayWidth).Writes d := by
  have hyear : d.year < Nat.pow 10 4 := Nat.lt_succ_of_le d.exists_day.1.2
  have hall : ∀ width n, (padded 10 width n).all isDigit = true := fun width n ↦
    List.all_eq_true.2 fun c hc ↦ isDigit_of_mem_padded hc
  cases form <;>
    simpa [WrittenDate.Writes, write, WrittenDate.isWellFormed, hall, length_padded,
      DateForm.hasWidths, DateForm.hasWidths.isShort, decimalValue_padded_of_lt hmonth,
      decimalValue_padded_of_lt hday, decimalValue_padded_of_lt hyear] using hwidths

/-! ## Orders -/

theorem daysInMonth_le (year month : Nat) : daysInMonth year month ≤ 31 := by
  unfold daysInMonth
  split
  · split <;> decide
  all_goals decide

theorem Date.day_le (d : Date) : d.day ≤ 31 :=
  d.exists_day.2.2.2.trans (daysInMonth_le d.year d.month)

theorem Date.month_le (d : Date) : d.month ≤ 12 :=
  d.exists_day.2.1.2

namespace WrittenDate

variable {w : WrittenDate} {d : Date}

/-- Whether a date of the month-first form, whose first number is too large for a month, writes a day
with the day before the month. -/
def WritesDayFirst (w : WrittenDate) (d : Date) : Prop :=
  w.form = .monthFirst ∧ 12 < decimalValue w.first ∧
    decimalValue w.first = d.day ∧ decimalValue w.second = d.month ∧ decimalValue w.third = d.year

/-- Whether a date of the month-first form, whose first number is too large for a day, writes a day with
the year first and the day last. -/
def WritesYearFirst (w : WrittenDate) (d : Date) : Prop :=
  w.form = .monthFirst ∧ 31 < decimalValue w.first ∧
    decimalValue w.first = d.year ∧ decimalValue w.second = d.month ∧ decimalValue w.third = d.day

/-- Whether a written date is read as a day: as its form says, or in one of the other orders. -/
def Means (w : WrittenDate) (d : Date) : Prop :=
  w.Writes d ∨ w.WritesDayFirst d ∨ w.WritesYearFirst d

theorem date?_eq_some_iff (hw : w.isWellFormed = true) : w.date? = some d ↔ w.Means d := by
  have hmonth := d.month_le
  have hday := d.day_le
  rw [date?, fields, Means, Writes, WritesDayFirst, WritesYearFirst, hw]
  cases hform : w.form with
  | monthFirst =>
    simp only [true_and]
    split_ifs with hsmall hshort <;> rw [Date.ofFields?_eq_some_iff] <;> omega
  | _ =>
    simp only [reduceCtorEq, false_and, or_false, true_and, Date.ofFields?_eq_some_iff]
    omega

end WrittenDate

/-! ## Reading a written date -/

theorem trim_eq_self {cs : List Char} (hhead : cs.head?.any isBlank = false)
    (hlast : cs.getLast?.any isBlank = false) : trim cs = cs := by
  have hstart : ∀ {xs : List Char}, xs.head?.any isBlank = false → trimStart xs = xs := by
    intro xs h
    cases xs with
    | nil => rfl
    | cons x xs => exact List.dropWhile_cons_of_neg (Bool.eq_false_iff.1 h)
  rw [trim, hstart hhead, trimEnd, hstart (by rwa [List.head?_reverse]), List.reverse_reverse]

theorem WrittenDate.isBlank_eq_false {w : WrittenDate} (h : w.isWellFormed = true) :
    ∀ c ∈ w.chars, isBlank c = false := by
  intro c hc
  rcases w.mem_chars h hc with hdigit | rfl | rfl
  · exact isBlank_eq_false_of_isDigit hdigit
  · decide
  · decide

theorem WrittenDate.trim_chars {w : WrittenDate} (h : w.isWellFormed = true) :
    trim w.chars = w.chars := by
  have hhead := w.startsWithBlank_chars_append h []
  rw [List.append_nil] at hhead
  exact trim_eq_self hhead
    (any_isBlank_eq_false (w.isDigit_getLast? h) fun _ ↦ isBlank_eq_false_of_isDigit)

theorem WrittenDate.ofChars?_chars {w : WrittenDate} (h : w.isWellFormed = true) :
    ofChars? w.chars = some w := by
  have htake : take? w.chars = some (w, []) :=
    take?_eq_some_iff.2 ⟨h, rfl, (List.append_nil _).symm⟩
  rw [ofChars?, htake]

namespace Date

variable {w : WrittenDate}

/-- What the reader of written dates says of one. -/
theorem ofText_chars (hw : w.isWellFormed = true) :
    ofText (String.ofList w.chars) =
      match w.date? with
      | some d => .ok d
      | none => .error (.invalid (String.ofList w.chars)) := by
  simp only [ofText, readText, Reader.written, String.toList_ofList, w.trim_chars hw,
    w.ofChars?_chars hw, Option.bind_some]
  cases w.date? <;> rfl

/-- **A written date is read as the day that it means.** -/
theorem ofText_eq_ok_iff (hw : w.isWellFormed = true) {d : Date} :
    ofText (String.ofList w.chars) = .ok d ↔ w.Means d := by
  rw [← WrittenDate.date?_eq_some_iff hw, ofText_chars hw]
  cases w.date? <;> simp

theorem ofText_eq_error_iff (hw : w.isWellFormed = true) {e : Error} :
    ofText (String.ofList w.chars) = .error e ↔
      (∀ d, ¬w.Means d) ∧ e = .invalid (String.ofList w.chars) := by
  simp only [← WrittenDate.date?_eq_some_iff hw]
  rw [ofText_chars hw]
  cases w.date? <;> simp [eq_comm]

/-- The day as a report writes it is its dashed form. -/
theorem chars_write_dashed (d : Date) : (d.write .dashed 2 2).chars = d.isoChars := by
  simp [write, WrittenDate.chars, DateForm.mark, isoChars]

theorem writes_write_dashed (d : Date) : (d.write .dashed 2 2).Writes d :=
  d.writes_write (Nat.lt_of_le_of_lt d.month_le (by decide))
    (Nat.lt_of_le_of_lt d.day_le (by decide)) (by simp)

/-- **The day that a report writes is read again.** -/
theorem ofText_isoText (d : Date) : ofText d.isoText = .ok d := by
  rw [isoText, ← chars_write_dashed]
  exact (ofText_eq_ok_iff d.writes_write_dashed.1).2 (.inl d.writes_write_dashed)

/-- **A date of the month-first form is read month first**, if there is such a day.  If not, it is read
with the day first when its first number is too large for a month, and with the year first when that is
too large for a day.  A text that is no day in any of these orders is refused.  So the form is followed
just when there is no day in the other two orders. -/
theorem ofText_monthFirst (hw : w.isWellFormed = true) (hform : w.form = .monthFirst) :
    (∀ d, ofText (String.ofList w.chars) = .ok d ↔
      (decimalValue w.first = d.month ∧ decimalValue w.second = d.day ∧
        decimalValue w.third = d.year) ∨
      w.WritesDayFirst d ∨ w.WritesYearFirst d) ∧
    (∀ e, ofText (String.ofList w.chars) = .error e ↔
      (∀ d, ¬w.Means d) ∧ e = .invalid (String.ofList w.chars)) ∧
    ((∀ d, ofText (String.ofList w.chars) = .ok d → w.Writes d) ↔
      ∀ d, ¬w.WritesDayFirst d ∧ ¬w.WritesYearFirst d) := by
  have hwrites : ∀ d, w.Writes d ↔ decimalValue w.first = d.month ∧
      decimalValue w.second = d.day ∧ decimalValue w.third = d.year := by
    intro d
    rw [WrittenDate.Writes, hform, hw]
    exact and_iff_right rfl
  refine ⟨fun d ↦ ?_, fun e ↦ ofText_eq_error_iff hw, fun h d ↦ ?_, fun h d hd ↦ ?_⟩
  · rw [ofText_eq_ok_iff hw, WrittenDate.Means, hwrites]
  · have hmonth := d.month_le
    constructor
    · intro hday
      have hfirst := (hwrites d).1 (h d ((ofText_eq_ok_iff hw).2 (.inr (.inl hday))))
      obtain ⟨-, hlarge, -⟩ := hday
      omega
    · intro hyear
      have hfirst := (hwrites d).1 (h d ((ofText_eq_ok_iff hw).2 (.inr (.inr hyear))))
      obtain ⟨-, hlarge, -⟩ := hyear
      omega
  · exact ((ofText_eq_ok_iff hw).1 hd).resolve_right fun hother ↦
      hother.elim (h d).1 (h d).2

/-- A leap day, in the order of the form and with the day first. -/
theorem ofText_monthFirst_leap_day :
    ofText "2/29/2024" = .ok ⟨2024, 2, 29, by decide⟩ ∧
      ofText "29/2/2024" = .ok ⟨2024, 2, 29, by decide⟩ := by
  have hmonth := (ofText_monthFirst (w := ⟨.monthFirst, "2".toList, "29".toList, "2024".toList⟩)
    rfl rfl).1 ⟨2024, 2, 29, by decide⟩
  have hday := (ofText_monthFirst (w := ⟨.monthFirst, "29".toList, "2".toList, "2024".toList⟩)
    rfl rfl).1 ⟨2024, 2, 29, by decide⟩
  exact ⟨hmonth.2 (.inl (by decide)), hday.2 (.inr (.inl ⟨rfl, by decide⟩))⟩

/-- The first number is no month, and the date is read with the day first. -/
theorem ofText_day_before_month :
    ∃ w : WrittenDate, w.isWellFormed = true ∧ w.form = .monthFirst ∧
      String.ofList w.chars = "13/01/2009" ∧ (∀ d, ¬w.Writes d) ∧
      ofText "13/01/2009" = .ok ⟨2009, 1, 13, by decide⟩ := by
  refine ⟨⟨.monthFirst, "13".toList, "01".toList, "2009".toList⟩, by decide, rfl, by decide,
    fun d hd ↦ ?_, by decide⟩
  have hfirst : decimalValue "13".toList = d.month := hd.2.1
  have hvalue : decimalValue "13".toList = 13 := by decide
  have hmonth := d.month_le
  omega

end Date
end SearchFilter
