import SearchFilter.Proofs.Chain
import SearchFilter.Proofs.Json.Reading
import SearchFilter.Report

/-!
# Items read back

The conditions of a report are not lost: unless its reader of dates fails in a way of its own there is an
item for each, in their order, from whose documents they are read again.

* `Report.item_cases`: the four outcomes for one condition.
* `Report.value_items_eq_ok_iff`: the items of conditions are those of each.
* `Report.load_items`: the items of conditions give the conditions back.
* `Report.Item.numberFree_toJson`: their documents hold no numbers.
-/

set_option autoImplicit false

namespace SearchFilter
namespace Report

open Log

section

variable [Surroundings] {read : Date.Reader}

/-! ## One condition -/

/-- The warning of dates that cannot be read. -/
def unreadableWarning (condition : Condition) (e : Date.Error) : Record :=
  ⟨Level.warning.rank, "Unreadable date in " ++ Text.quoted condition.value ++ ": " ++ e.message⟩

/-- **What becomes of one condition**: it names no dates, or they are read, or the reader fails, or they
are no dates and a warning is given. -/
theorem item_cases (read : Date.Reader) (condition : Condition) :
    (condition.isDate = false ∧ item read condition = ⟨.ok ⟨condition, .absent⟩, []⟩) ∨
    (∃ days, condition.isDate = true ∧ condition.datesBy read = .ok days ∧
      item read condition = ⟨.ok ⟨condition, .days days⟩, []⟩) ∨
    (∃ words, condition.datesBy read = .error (.failed words) ∧
      item read condition = ⟨.error (.failed words), []⟩) ∨
    ∃ e, condition.isDate = true ∧ condition.datesBy read = .error e ∧
      item read condition = ⟨.ok ⟨condition, .unreadable⟩, [unreadableWarning condition e]⟩ := by
  cases hdate : condition.isDate with
  | false => exact .inl ⟨rfl, by simp [item, hdate, pure]⟩
  | true =>
    cases hdates : condition.datesBy read with
    | ok days => exact .inr (.inl ⟨days, rfl, rfl, by simp [item, hdate, hdates, pure]⟩)
    | error e =>
      cases e with
      | failed words =>
        exact .inr (.inr (.inl ⟨words, rfl, by simp [item, hdate, hdates, pure]⟩))
      | invalid text =>
        exact .inr (.inr (.inr ⟨_, rfl, rfl, by simp only [item, hdate, hdates]; rfl⟩))
      | notDated operator =>
        exact .inr (.inr (.inr ⟨_, rfl, rfl, by simp only [item, hdate, hdates]; rfl⟩))

theorem condition_of_item_eq_ok {condition : Condition} {it : Item}
    (h : (item read condition).value = .ok it) : it.condition = condition := by
  rcases item_cases read condition with ⟨-, hitem⟩ | ⟨_, -, -, hitem⟩ | ⟨_, -, hitem⟩ |
    ⟨_, -, -, hitem⟩ <;> rw [hitem] at h <;> cases h <;> rfl

/-! ## All items -/

theorem value_items_nil : (items read []).value = .ok [] :=
  rfl

theorem value_items_cons (condition : Condition) (conditions : List Condition) :
    (items read (condition :: conditions)).value =
      ((item read condition).value >>= fun first ↦
        (items read conditions).value.map (first :: ·)) := by
  rw [items, Logged.value_bind]
  cases (item read condition).value <;> rfl

/-- **The items of conditions** are those of each, in their order. -/
theorem value_items_eq_ok_iff {conditions : List Condition} {its : List Item} :
    (items read conditions).value = .ok its ↔
      List.Forall₂ (fun condition it ↦ (item read condition).value = .ok it) conditions its := by
  induction conditions generalizing its with
  | nil =>
    rw [value_items_nil, List.forall₂_nil_left_iff]
    exact ⟨fun h ↦ (Except.ok.inj h).symm, fun h ↦ h ▸ rfl⟩
  | cons condition conditions ih =>
    rw [value_items_cons, bind_eq_ok_iff, List.forall₂_cons_left_iff]
    refine exists_congr fun first ↦ ?_
    cases hrest : (items read conditions).value with
    | error e =>
      simp only [hrest, reduceCtorEq, false_iff] at ih
      simp [Except.map, ih]
    | ok rest =>
      simp only [hrest, Except.ok.injEq] at ih
      simp only [Except.map, Except.ok.injEq, ← ih]
      constructor
      · rintro ⟨hfirst, rfl⟩
        exact ⟨rest, hfirst, rfl, rfl⟩
      · rintro ⟨_, hfirst, rfl, rfl⟩
        exact ⟨hfirst, rfl⟩

theorem map_condition_of_items_eq_ok {conditions : List Condition} {its : List Item}
    (h : (items read conditions).value = .ok its) : its.map (·.condition) = conditions := by
  have heach := value_items_eq_ok_iff.1 h
  clear h
  induction heach with
  | nil => rfl
  | cons hitem _ ih => rw [List.map_cons, ih, condition_of_item_eq_ok hitem]

end

/-! ## Documents -/

theorem loadItem_toJson (item : Item) : loadItem item.toJson = .ok item.condition := by
  obtain ⟨⟨value, operator⟩, dates⟩ := item
  have hvalue : field "value" (Item.toJson ⟨⟨value, operator⟩, dates⟩) = .ok (.string value) := rfl
  have hoperator : field "operator" (Item.toJson ⟨⟨value, operator⟩, dates⟩) =
      .ok (.string operator.name) := rfl
  have hpair : Condition.ofPair "" operator.name = .ok ⟨"", operator⟩ :=
    Condition.ofPair_toPair ⟨"", operator⟩
  rw [loadItem, hvalue, hoperator]
  simp only [bind, Except.bind, operatorName, hpair]

theorem Item.numberFree_toJson (item : Item) : item.toJson.NumberFree := by
  refine .object fun field hfield ↦ ?_
  rcases List.mem_append.1 hfield with h | h
  · simp only [List.mem_cons, List.not_mem_nil, or_false] at h
    rcases h with rfl | rfl <;> exact .string _
  · cases hdates : item.dates with
    | absent => simp [hdates, DateField.toFields] at h
    | unreadable =>
      rw [hdates, DateField.toFields, List.mem_singleton] at h
      exact h ▸ .null
    | days dates =>
      rw [hdates, DateField.toFields, List.mem_singleton] at h
      subst h
      refine .array fun text htext ↦ ?_
      obtain ⟨day, -, rfl⟩ := List.mem_map.1 htext
      exact .string _

theorem load_cons {document : Json} {documents : List Json} {condition : Condition}
    {conditions : List Condition} (h : loadItem document = .ok condition)
    (hrest : load documents = .ok conditions) :
    load (document :: documents) = .ok (condition :: conditions) := by
  rw [load] at hrest ⊢
  rw [List.mapM_cons, h, hrest]
  rfl

/-- **Conditions are read back from their items**, all of them and in their order. -/
theorem load_items [Surroundings] {read : Date.Reader} {conditions : List Condition}
    {its : List Item} (h : (items read conditions).value = .ok its) :
    load (its.map (·.toJson)) = .ok conditions := by
  refine List.Forall₂.rec rfl (fun {condition it conditions its} hitem _ ih ↦ ?_)
    (value_items_eq_ok_iff.1 h)
  have hfirst := loadItem_toJson it
  rw [condition_of_item_eq_ok hitem] at hfirst
  exact load_cons hfirst ih

end Report
end SearchFilter
