import Mathlib.Data.List.Forall2
import SearchFilter.Proofs.Date.Reading
import SearchFilter.Proofs.Report

/-!
# What the items of a report tell

Any conditions can be reported, also such that no query has.  Where a condition names dates and these
cannot be read, its item says so and a warning is given; else it lists the days.

* `Date.Reader.Refuses` and `Date.Reader.ReadsIso` are what is relied on of a reader of dates: it has no
  faults of its own, and finds the day that a report writes.  `Date.Reader.refuses_written` and
  `Date.Reader.readsIso_written`: the reader of written dates is such a reader.
* `Report.Tells` says what the document of an item holds, `Report.WarnsOf` what a warning is.
* `Report.tells_of_item_eq_ok` and `Report.warnsOf_item`: one item and its warnings.
* `Report.conditions_survive_report`: all items of a list, their warnings, and what is read from them.
-/

set_option autoImplicit false

namespace SearchFilter

open Log Text

/-! ## Readers of dates -/

namespace Date

/-- Whether a reader fails only where a text names no day or a number in it is too large. -/
def Reader.Refuses (read : Reader) : Prop :=
  ∀ yearFirst text fault, read yearFirst text = .error fault → fault = .noDate ∨ fault = .tooLarge

/-- Whether a reader finds each day in the text that a report writes for it. -/
def Reader.ReadsIso (read : Reader) : Prop :=
  ∀ date : Date, read true date.isoText = .ok date

theorem Reader.refuses_written : Reader.written.Refuses := by
  intro yearFirst text fault h
  rw [Reader.written] at h
  split at h <;> cases h
  exact .inl rfl

/-- The text that a report writes starts with the year and has no blanks around it. -/
theorem readText_isoText (read : Reader) (date : Date) :
    readText read date.isoText =
      match read true date.isoText with
      | .ok date => .ok date
      | .error (.unforeseen words) => .error (.failed words)
      | .error _ => .error (.invalid date.isoText) := by
  have htrim : trim date.isoText.toList = date.isoChars := by
    rw [isoText, String.toList_ofList, ← chars_write_dashed,
      WrittenDate.trim_chars date.writes_write_dashed.1]
  have hyear : startsWithYear date.isoChars = true := by
    have htake : date.isoChars.take 4 = padded 10 4 date.year := by
      rw [isoChars, List.append_assoc, List.take_append_of_le_length (by rw [length_padded]),
        List.take_of_length_le (by rw [length_padded])]
    rw [startsWithYear, htake, length_padded]
    exact List.all_eq_true.2 fun c hc ↦ isDigit_of_mem_padded hc
  rw [readText, htrim, hyear]
  rfl

theorem readText_isoText_eq_ok {read : Reader} (hiso : read.ReadsIso) (date : Date) :
    readText read date.isoText = .ok date := by
  rw [readText_isoText, hiso date]

theorem Reader.readsIso_written : Reader.written.ReadsIso := by
  intro date
  have htext := date.ofText_isoText
  rw [ofText, readText_isoText] at htext
  split at htext
  next heq =>
    cases htext
    exact heq
  all_goals cases htext

theorem readText_ne_failed {read : Reader} (hrefuses : read.Refuses) (text words : String) :
    readText read text ≠ .error (.failed words) := by
  intro h
  rw [readText] at h
  split at h
  next => cases h
  next heq => rcases hrefuses _ _ _ heq with hfault | hfault <;> cases hfault
  next => cases h

end Date

theorem Condition.isDate_of_datesBy_eq_ok {read : Date.Reader} {condition : Condition}
    {days : List Date} (h : condition.datesBy read = .ok days) : condition.isDate = true := by
  by_contra hdate
  rw [datesBy, if_neg hdate] at h
  cases h

theorem Condition.datesBy_ne_failed {read : Date.Reader} (hrefuses : read.Refuses)
    (condition : Condition) (words : String) : condition.datesBy read ≠ .error (.failed words) := by
  intro h
  rw [datesBy] at h
  split at h
  · obtain ⟨_, side, _, -, -, hside⟩ := mapM_eq_error_iff.1 h
    exact Date.readText_ne_failed hrefuses side words hside
  · cases h

namespace Report

section

variable [Surroundings] {read : Date.Reader}

/-! ## One condition -/

/-- Whether a document holds what is to be told of a condition: its value, the name of its operator, and
if it names dates the days that they are, which can be read again, or nothing in their place if one of
them cannot be read. -/
structure Tells (read : Date.Reader) (condition : Condition) (document : Json) : Prop where
  value : document.get? "value" = some (.string condition.value)
  operator : document.get? "operator" = some (.string condition.operator.name)
  dates_iff : (document.get? "dates").isSome = true ↔ condition.isDate = true
  null_iff : document.get? "dates" = some .null ↔
    condition.isDate = true ∧ ∃ e, condition.datesBy read = .error e
  days : ∀ days, condition.datesBy read = .ok days →
    document.get? "dates" = some (.array (days.map fun day ↦ .string day.isoText)) ∧
      ∀ day ∈ days, Date.readText read day.isoText = .ok day

/-- Whether a document says of its dates that they cannot be read. -/
def hasNullDates (document : Json) : Bool :=
  match document.get? "dates" with
  | some .null => true
  | _ => false

/-- Whether a record warns that the dates of a condition cannot be read, and why. -/
def WarnsOf (read : Date.Reader) (condition : Condition) (record : Record) : Prop :=
  ∃ e, condition.datesBy read = .error e ∧ record = unreadableWarning condition e

/-- A reader that only refuses leaves no condition without an item. -/
theorem exists_item_eq_ok (hrefuses : read.Refuses) (condition : Condition) :
    ∃ it, (item read condition).value = .ok it := by
  rcases item_cases read condition with ⟨-, hitem⟩ | ⟨_, -, -, hitem⟩ | ⟨words, hfailed, -⟩ |
    ⟨_, -, -, hitem⟩
  · exact ⟨_, by rw [hitem]⟩
  · exact ⟨_, by rw [hitem]⟩
  · exact absurd hfailed (condition.datesBy_ne_failed hrefuses words)
  · exact ⟨_, by rw [hitem]⟩

/-- **The document of an item tells its condition.** -/
theorem tells_of_item_eq_ok (hiso : read.ReadsIso) {condition : Condition} {it : Item}
    (h : (item read condition).value = .ok it) : Tells read condition it.toJson := by
  have hvalue : it.toJson.get? "value" = some (.string condition.value) :=
    congrArg (fun c : Condition ↦ some (Json.string c.value)) (condition_of_item_eq_ok h)
  have hoperator : it.toJson.get? "operator" = some (.string condition.operator.name) :=
    congrArg (fun c : Condition ↦ some (Json.string c.operator.name)) (condition_of_item_eq_ok h)
  have hfield : it.toJson.get? "dates" = it.dates.toFields.lookup "dates" := rfl
  rcases item_cases read condition with ⟨hdate, hitem⟩ | ⟨days, hdate, hdates, hitem⟩ |
    ⟨_, -, hitem⟩ | ⟨e, hdate, hdates, hitem⟩ <;> rw [hitem] at h <;> cases h
  · have hnone : Json.get? "dates" (Item.toJson ⟨condition, .absent⟩) = none := hfield
    refine ⟨hvalue, hoperator, by simp [hnone, hdate], by simp [hnone, hdate], fun days hdays ↦ ?_⟩
    rw [Condition.isDate_of_datesBy_eq_ok hdays] at hdate
    cases hdate
  · have hlist : Json.get? "dates" (Item.toJson ⟨condition, .days days⟩) =
        some (.array (days.map fun day ↦ .string day.isoText)) := hfield
    refine ⟨hvalue, hoperator, by simp [hlist, hdate], by simp [hlist, hdates],
      fun days' hdays' ↦ ?_⟩
    obtain rfl : days = days' := Except.ok.inj (hdates.symm.trans hdays')
    exact ⟨hlist, fun day _ ↦ day.readText_isoText_eq_ok hiso⟩
  · have hnull : Json.get? "dates" (Item.toJson ⟨condition, .unreadable⟩) = some .null := hfield
    refine ⟨hvalue, hoperator, by simp [hnull, hdate], by simp [hnull, hdate, hdates],
      fun days hdays ↦ ?_⟩
    rw [hdates] at hdays
    cases hdays

/-- **There is one warning for an item that says nothing in the place of its dates**, and else none. -/
theorem warnsOf_item {condition : Condition} {it : Item}
    (h : (item read condition).value = .ok it) :
    List.Forall₂ (WarnsOf read) (if hasNullDates it.toJson then [condition] else [])
      (item read condition).records := by
  rcases item_cases read condition with ⟨-, hitem⟩ | ⟨days, -, -, hitem⟩ | ⟨_, -, hitem⟩ |
    ⟨e, -, hdates, hitem⟩ <;> rw [hitem] at h ⊢ <;> cases h
  · exact .nil
  · exact .nil
  · exact .cons ⟨e, hdates, rfl⟩ .nil

/-! ## All conditions -/

theorem exists_items_eq_ok (hrefuses : read.Refuses) (conditions : List Condition) :
    ∃ its, (items read conditions).value = .ok its := by
  induction conditions with
  | nil => exact ⟨[], rfl⟩
  | cons condition conditions ih =>
    obtain ⟨first, hfirst⟩ := exists_item_eq_ok hrefuses condition
    obtain ⟨rest, hrest⟩ := ih
    exact ⟨first :: rest, by rw [value_items_cons, hfirst, hrest]; rfl⟩

theorem records_items_cons {condition : Condition} {it : Item}
    (h : (item read condition).value = .ok it) (conditions : List Condition) :
    (items read (condition :: conditions)).records =
      (item read condition).records ++ (items read conditions).records := by
  rw [items, Logged.records_bind, h]
  simp

/-- The warnings of a list of conditions are those of its items, one after another. -/
theorem warnsOf_items {conditions : List Condition} {its : List Item}
    (h : List.Forall₂ (fun condition it ↦ (item read condition).value = .ok it) conditions its) :
    List.Forall₂ (WarnsOf read)
      (((conditions.zip (its.map (·.toJson))).filter (hasNullDates ·.2)).map (·.1))
      (items read conditions).records := by
  induction h with
  | nil => exact .nil
  | @cons condition it conditions its hitem hrest ih =>
    have hfirst := warnsOf_item hitem
    rw [records_items_cons hitem, List.map_cons, List.zip_cons_cons, List.filter_cons]
    split_ifs at hfirst ⊢ with hnull
    · exact List.rel_append hfirst ih
    · rwa [List.forall₂_nil_left_iff.1 hfirst]

/-- **Conditions survive being reported**, by any reader of dates that has no faults of its own and
finds the days that a report writes.  There is a document for each, in their order, that tells it.
For each document that says that its dates cannot be read there is one warning, in the order of the
conditions, and there are no others.  And from the documents the conditions are read again. -/
theorem conditions_survive_report (hrefuses : read.Refuses) (hiso : read.ReadsIso)
    (conditions : List Condition) :
    ∃ its, (items read conditions).value = .ok its ∧
      let documents := its.map (·.toJson)
      List.Forall₂ (Tells read) conditions documents ∧
      List.Forall₂ (WarnsOf read) (((conditions.zip documents).filter (hasNullDates ·.2)).map (·.1))
        (items read conditions).records ∧
      load documents = .ok conditions := by
  obtain ⟨its, hits⟩ := exists_items_eq_ok hrefuses conditions
  have heach := value_items_eq_ok_iff.1 hits
  exact ⟨its, hits, List.forall₂_map_right_iff.2 (heach.imp fun _ _ ↦ tells_of_item_eq_ok hiso),
    warnsOf_items heach, load_items hits⟩

end

/-- A day that does not exist, a range, and a condition that names no dates. -/
theorem conditions_survive_report_written :
    ∃ its, (items .written [⟨"2/30/2009", .asOfDate⟩, ⟨"20090115 TO 20090116", .betweenDates⟩,
        ⟨"a", .like⟩]).value = .ok its ∧
      load (its.map (·.toJson)) = .ok [⟨"2/30/2009", .asOfDate⟩,
        ⟨"20090115 TO 20090116", .betweenDates⟩, ⟨"a", .like⟩] ∧
      (items .written [⟨"2/30/2009", .asOfDate⟩, ⟨"20090115 TO 20090116", .betweenDates⟩,
        ⟨"a", .like⟩]).records =
          [⟨Level.warning.rank, "Unreadable date in '2/30/2009': Invalid date: 2/30/2009"⟩] := by
  obtain ⟨its, hits, -, -, hload⟩ := conditions_survive_report Date.Reader.refuses_written
    Date.Reader.readsIso_written [⟨"2/30/2009", .asOfDate⟩,
      ⟨"20090115 TO 20090116", .betweenDates⟩, ⟨"a", .like⟩]
  exact ⟨its, hits, hload, by decide +kernel⟩

end Report
end SearchFilter
