import SearchFilter.Proofs.Value.Merge
import SearchFilter.Settings.Load

/-!
# How far down settings are looked at

A value of a document that holds itself goes on without end, so values are made only some levels down.
Settings are not looked at any further, and the same settings are read when values are made further down,
also where one document is laid over another.

* `Value.cut` takes away what is further down than some levels, `Entries.cut` does so below a mapping.
* `Value.cut_over` and `Entries.cut_merge`: cutting goes along with merging.
* `Yaml.Content.cut_entries`: the value of a document is that of more levels, cut.
* `Settings.ofEntries_cut`: settings do not depend on what is cut.
* `Settings.ofEntries_entries` and `Settings.ofEntries_merge_entries`: more levels give the same settings.
-/

set_option autoImplicit false

namespace SearchFilter

/-! ## Cutting values -/

/-- A value without what is further down than some levels; this counts as nothing. -/
def Value.cut : (levels : Nat) → Value → Value
  | 0, _ => .null
  | levels + 1, .list items => .list (items.map (cut levels))
  | levels + 1, .mapping entries => .mapping (entries.map fun entry => (entry.1, cut levels entry.2))
  | _ + 1, value => value

/-- Entries with their values cut. -/
def Entries.cut (levels : Nat) (entries : Entries) : Entries :=
  entries.map fun entry ↦ (entry.1, entry.2.cut levels)

theorem Value.cut_of_isScalar {value : Value} (h : value.isScalar = true) (levels : Nat) :
    value.cut (levels + 1) = value := by
  cases value with
  | list items | mapping entries => cases h
  | _ => rfl

namespace Entries

theorem get?_cut (levels : Nat) (entries : Entries) (key : String) :
    (entries.cut levels).get? key = (entries.get? key).map (Value.cut levels) := by
  induction entries with
  | nil => rfl
  | cons entry entries ih =>
    rw [cut, List.map_cons, get?_cons, get?_cons]
    split
    · rfl
    · exact ih

theorem cut_put (levels : Nat) (key : String) (value : Value) (entries : Entries) :
    (put key value entries).cut levels = put key (value.cut levels) (entries.cut levels) := by
  induction entries with
  | nil => rfl
  | cons entry entries ih =>
    obtain ⟨k, v⟩ := entry
    rw [cut, cut, List.map_cons, put, put]
    split
    · rfl
    · exact congrArg ((k, v.cut levels) :: ·) ih

end Entries

/-- What is laid over a value can be cut before. -/
theorem Value.cut_over (levels : Nat) (value : Value) (before : Option Value) :
    (value.over before).cut levels = (value.cut levels).over (before.map (cut levels)) := by
  induction levels generalizing value before with
  | zero => rfl
  | succ levels ih =>
    have hmerge : ∀ base upper : Entries, (Entries.merge base upper).cut levels =
        Entries.merge (base.cut levels) (upper.cut levels) := by
      intro base upper
      induction upper generalizing base with
      | nil => rfl
      | cons entry upper ihUpper =>
        obtain ⟨key, v⟩ := entry
        rw [Entries.merge, ihUpper, Entries.mergeEntry, Entries.cut_put, ih, ← Entries.get?_cut]
        rfl
    cases value with
    | mapping upper =>
      cases before with
      | none => rfl
      | some v =>
        cases v with
        | mapping base => exact congrArg Value.mapping (hmerge base upper)
        | _ => rfl
    | _ => rfl

/-- **Entries that are merged can be cut before.** -/
theorem Entries.cut_merge (levels : Nat) (base upper : Entries) :
    (merge base upper).cut levels = merge (base.cut levels) (upper.cut levels) :=
  Value.mapping.inj ((Value.mapping upper).cut_over (levels + 1) (some (.mapping base)))

/-! ## Values of documents -/

namespace Yaml.Content

variable (content : Content) {levels more : Nat}

theorem cut_entriesOf {known known' : Array Value}
    (h : ∀ ref, (known.getD ref .null).cut levels = known'.getD ref .null)
    (entries : List (String × Ref)) :
    (entriesOf known entries).cut levels = entriesOf known' entries := by
  have hfold : ∀ before : Entries,
      (entries.foldl (fun (known' : Entries) entry ↦
          known'.put entry.1 (known.getD entry.2 .null)) before).cut levels =
        entries.foldl (fun (known : Entries) entry ↦ known.put entry.1 (known'.getD entry.2 .null))
          (before.cut levels) := by
    induction entries with
    | nil => exact fun _ ↦ rfl
    | cons entry entries ih =>
      intro before
      rw [List.foldl_cons, List.foldl_cons, ih, Entries.cut_put, h]
  exact hfold []

theorem cut_ofShape {known known' : Array Value}
    (h : ∀ ref, (known.getD ref .null).cut levels = known'.getD ref .null) (shape : Shape) :
    (ofShape known shape).cut (levels + 1) = ofShape known' shape := by
  cases shape with
  | scalar value hscalar => exact Value.cut_of_isScalar hscalar levels
  | list items =>
    rw [ofShape, ofShape, Value.cut, List.map_map]
    exact congrArg Value.list (List.map_congr_left fun ref _ ↦ h ref)
  | mapping entries => exact congrArg Value.mapping (cut_entriesOf h entries)

/-- Values of some levels are those of more levels, cut. -/
theorem cut_getD_values (hle : levels ≤ more) (ref : Ref) :
    ((content.values more).getD ref .null).cut levels = (content.values levels).getD ref .null := by
  induction levels generalizing more ref with
  | zero => rfl
  | succ levels ih =>
    obtain ⟨more, rfl⟩ := Nat.exists_eq_succ_of_ne_zero (Nat.ne_zero_of_lt hle)
    rw [values, values, Array.getD_eq_getD_getElem?, Array.getD_eq_getD_getElem?, Array.getElem?_map,
      Array.getElem?_map]
    cases content.shapes[ref]? with
    | none => rfl
    | some shape => exact cut_ofShape (ih (Nat.le_of_succ_le_succ hle)) shape

/-- **Entries of some levels are those of more levels, cut.** -/
theorem cut_entries (hle : levels ≤ more) :
    (content.entries (more + 1)).cut levels = content.entries (levels + 1) := by
  have hvalue : (content.value (more + 1)).cut (levels + 1) = content.value (levels + 1) :=
    content.cut_getD_values (Nat.succ_le_succ hle) content.top
  rw [entries, entries, ← hvalue]
  cases content.value (more + 1) <;> rfl

end Yaml.Content

/-! ## Settings -/

namespace Settings

variable {levels more : Nat}

theorem readSection_cut (levels : Nat) (entries : Entries) (key : String) (required : Bool) :
    readSection (entries.cut (levels + 1)) key required =
      (readSection entries key required).map (Entries.cut levels) := by
  rw [readSection, readSection, Entries.get?_cut]
  cases entries.get? key with
  | none => cases required <;> rfl
  | some value =>
    cases value with
    | null => cases required <;> rfl
    | _ => rfl

theorem require_cut (levels : Nat) (content : Entries) (field fullName : String) :
    require (content.cut levels) field fullName =
      (require content field fullName).map (Value.cut levels) := by
  rw [require, require, Entries.get?_cut]
  cases content.get? field <;> rfl

theorem asText_cut (levels : Nat) (fullName : String) (value : Value) :
    asText fullName (value.cut (levels + 1)) = asText fullName value := by
  cases value <;> rfl

theorem asBool_cut (levels : Nat) (fullName : String) (value : Value) :
    asBool fullName (value.cut (levels + 1)) = asBool fullName value := by
  cases value <;> rfl

theorem textsFrom_cut (levels : Nat) (fullName : String) (index : Nat) (items : List Value) :
    textsFrom fullName index (items.map (Value.cut (levels + 1))) =
      textsFrom fullName index items := by
  induction items generalizing index with
  | nil => rfl
  | cons item items ih =>
    cases item with
    | string s => exact congrArg (fun texts : Except Error (List String) ↦ texts >>= fun texts ↦
        pure (s :: texts)) (ih (index + 1))
    | _ => rfl

theorem asTexts_cut (levels : Nat) (fullName : String) (value : Value) :
    asTexts fullName (value.cut (levels + 2)) = asTexts fullName value := by
  cases value with
  | list items => exact textsFrom_cut levels fullName 0 items
  | _ => rfl

theorem readQueries_cut (levels : Nat) (entries : Entries) :
    readQueries (entries.cut (levels + 2)) = readQueries entries := by
  rw [readQueries, readQueries, Entries.get?_cut]
  cases entries.get? "queries" with
  | none => rfl
  | some value =>
    cases value with
    | list items => exact asTexts_cut levels "queries" (.list items)
    | _ => rfl

/-- **Settings do not depend on what is cut**: they are read from sections, from values in these, and
from the items of lists. -/
theorem ofEntries_cut (levels : Nat) (entries : Entries) :
    ofEntries (entries.cut (levels + 3)) = ofEntries entries := by
  have hmap : ∀ {α β γ : Type} (first : Except Error α) (f : α → β) (next : β → Except Error γ),
      (first.map f >>= next) = first >>= fun a ↦ next (f a) := fun first _ _ ↦ by
    cases first <;> rfl
  rw [ofEntries, ofEntries, Draft.ofEntries, Draft.ofEntries]
  simp only [readSection_cut, require_cut, hmap, asText_cut, asBool_cut, asTexts_cut,
    readQueries_cut]

/-- **More levels of a document hold the same settings.** -/
theorem ofEntries_entries (content : Yaml.Content) (h : Settings.levels ≤ levels) :
    ofEntries (content.entries levels) = ofEntries (content.entries Settings.levels) := by
  obtain ⟨more, rfl⟩ := Nat.exists_eq_add_of_le' h
  have hcontent : (content.entries (more + 4)).cut 3 = content.entries 4 :=
    content.cut_entries (Nat.le_add_left 3 more)
  rw [Settings.levels, ← hcontent, ofEntries_cut 0]

/-- **More levels of two documents hold the same settings** when one is laid over the other. -/
theorem ofEntries_merge_entries (base upper : Yaml.Content) (h : Settings.levels ≤ levels) :
    ofEntries (Entries.merge (base.entries levels) (upper.entries levels)) =
      ofEntries (Entries.merge (base.entries Settings.levels) (upper.entries Settings.levels)) := by
  obtain ⟨more, rfl⟩ := Nat.exists_eq_add_of_le' h
  have hbase : (base.entries (more + 4)).cut 3 = base.entries 4 :=
    base.cut_entries (Nat.le_add_left 3 more)
  have hupper : (upper.entries (more + 4)).cut 3 = upper.entries 4 :=
    upper.cut_entries (Nat.le_add_left 3 more)
  rw [Settings.levels, ← hbase, ← hupper, ← Entries.cut_merge, ofEntries_cut 0]

end Settings
end SearchFilter
