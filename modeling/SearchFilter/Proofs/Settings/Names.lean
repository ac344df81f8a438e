import Mathlib.Data.List.Basic
import SearchFilter.Settings.Read

/-!
# Names in settings

Levels and formats are named in settings, and the name of a format may occur more than once.  What is
left of the names is without repetitions and in the order in which the names occur first.

* `pairwise_idxOf_eraseDups`: the order of a list without repetitions.
* `Log.Level.ofName?_eq_some_iff` and `Format.ofName?_eq_some_iff`: what is named by a name.
* `Settings.mem_normalFormats_iff` and `Settings.pairwise_idxOf_normalFormats`: which names of formats
  count, and in which order.
* `Settings.map_name_filterMap_ofName?`: the formats that are named when all names are known.
-/

set_option autoImplicit false

namespace SearchFilter

/-! ## First occurrences -/

section FirstOccurrences

variable {α : Type} [BEq α] [LawfulBEq α] {p : α → Bool} {xs : List α} {x y : α}

/-- What is left of a list is in the order in which it was before. -/
theorem idxOf_lt_idxOf_of_filter (hx : p x = true) (hy : p y = true)
    (h : (xs.filter p).idxOf x < (xs.filter p).idxOf y) : xs.idxOf x < xs.idxOf y := by
  induction xs with
  | nil => exact h
  | cons z xs ih =>
    have hidx : ∀ {w zs}, (z :: zs).idxOf w = bif z == w then 0 else zs.idxOf w + 1 :=
      List.idxOf_cons
    by_cases hz : p z = true
    · rw [List.filter_cons_of_pos hz, hidx, hidx] at h
      rw [hidx, hidx]
      cases hzx : z == x <;> cases hzy : z == y <;> simp only [hzx, hzy, cond_true, cond_false] at h ⊢
      · exact Nat.succ_lt_succ (ih (Nat.lt_of_succ_lt_succ h))
      all_goals omega
    · rw [List.filter_cons_of_neg hz] at h
      have hne : ∀ {w}, p w = true → (z == w) = false := fun hw ↦
        beq_false_of_ne fun heq ↦ hz (heq ▸ hw)
      rw [hidx, hidx, hne hx, hne hy]
      exact Nat.succ_lt_succ (ih h)

/-- **Without repetitions** what is left stands in the order of the first occurrences. -/
theorem pairwise_idxOf_eraseDups :
    ∀ xs : List α, xs.eraseDups.Pairwise fun x y ↦ xs.idxOf x < xs.idxOf y
  | [] => .nil
  | z :: xs => by
    have hidx : ∀ {w}, (z :: xs).idxOf w = bif z == w then 0 else xs.idxOf w + 1 :=
      List.idxOf_cons
    have hkept : ∀ {y}, y ∈ (xs.filter fun y ↦ !y == z).eraseDups → (!y == z) = true := fun hy ↦
      (List.mem_filter.1 (List.mem_eraseDups.1 hy)).2
    have hne : ∀ {y}, y ∈ (xs.filter fun y ↦ !y == z).eraseDups → (z == y) = false := fun hy ↦ by
      rw [Bool.beq_comm, ← Bool.not_eq_true']
      exact hkept hy
    have hrest := pairwise_idxOf_eraseDups (xs.filter fun y ↦ !y == z)
    rw [List.eraseDups_cons]
    refine .cons (fun y hy ↦ ?_) (hrest.imp_of_mem fun hx hy hlt ↦ ?_)
    · rw [hidx, hidx, beq_self_eq_true, cond_true, hne hy, cond_false]
      exact Nat.succ_pos _
    · rw [hidx, hidx, hne hx, hne hy, cond_false, cond_false]
      exact Nat.succ_lt_succ (idxOf_lt_idxOf_of_filter (hkept hx) (hkept hy) hlt)
termination_by xs => xs.length
decreasing_by exact Nat.lt_succ_of_le (List.length_filter_le _ _)

end FirstOccurrences

/-! ## Names -/

/-- What is looked up by its name has that name. -/
theorem find?_name_eq_some_iff {α : Type} {all : List α} {name : α → String} {s : String} {a : α}
    (hall : ∀ a, a ∈ all) (hinj : Function.Injective name) :
    all.find? (name · == s) = some a ↔ name a = s := by
  have hname : ∀ {b}, all.find? (name · == s) = some b → name b = s := fun {b} hb ↦ by
    simpa using List.find?_some hb
  refine ⟨hname, ?_⟩
  rintro rfl
  have hsome : (all.find? (name · == name a)).isSome = true :=
    List.find?_isSome.2 ⟨a, hall a, by simp⟩
  obtain ⟨b, hb⟩ := Option.isSome_iff_exists.1 hsome
  rw [hb, hinj (hname hb)]

theorem Log.Level.name_injective : Function.Injective Level.name := by
  intro a b h
  cases a <;> cases b <;> first | rfl | exact absurd h (by decide)

theorem Format.name_injective : Function.Injective Format.name := by
  intro a b h
  cases a <;> cases b <;> first | rfl | exact absurd h (by decide)

theorem Log.Level.ofName?_eq_some_iff {name : String} {level : Level} :
    ofName? name = some level ↔ level.name = name :=
  find?_name_eq_some_iff (fun level ↦ by cases level <;> decide) Level.name_injective

theorem Format.ofName?_eq_some_iff {name : String} {format : Format} :
    Format.ofName? name = some format ↔ format.name = name :=
  find?_name_eq_some_iff (fun format ↦ by cases format <;> decide) Format.name_injective

theorem isNone_find?_name_eq_false_iff {α : Type} {all : List α} {name : α → String} {s : String} :
    (all.find? (name · == s)).isNone = false ↔ s ∈ all.map name := by
  rw [Option.isNone_eq_false_iff, List.find?_isSome, List.mem_map]
  simp only [beq_iff_eq]

theorem Log.Level.isNone_ofName?_eq_false_iff {name : String} : (ofName? name).isNone = false ↔
    name ∈ ["DEBUG", "INFO", "WARNING", "ERROR", "CRITICAL"] :=
  isNone_find?_name_eq_false_iff

theorem Format.isNone_ofName?_eq_false_iff {name : String} :
    (ofName? name).isNone = false ↔ name ∈ ["console", "json"] :=
  isNone_find?_name_eq_false_iff

namespace Settings

/-- Each name of a format, as it is compared, counts once, and blank ones do not count. -/
theorem mem_normalFormats_iff {name : String} {names : List String} :
    name ∈ normalFormats names ↔ name ≠ "" ∧ name ∈ names.map normalFormat := by
  rw [normalFormats, List.mem_eraseDups, List.mem_filter, and_comm]
  simp

theorem isEmpty_normalFormats_eq_false_iff {names : List String} :
    (normalFormats names).isEmpty = false ↔ ∃ name ∈ names, normalFormat name ≠ "" := by
  rw [List.isEmpty_eq_false_iff_exists_mem]
  simp only [mem_normalFormats_iff, List.mem_map]
  constructor
  · rintro ⟨_, hne, name, hname, rfl⟩
    exact ⟨name, hname, hne⟩
  · rintro ⟨name, hname, hne⟩
    exact ⟨_, hne, name, hname, rfl⟩

theorem isEmpty_unknown_iff {names : List String} :
    ((normalFormats names).filter fun name ↦ (Format.ofName? name).isNone).isEmpty = true ↔
      ∀ name ∈ names, normalFormat name ∈ ["", "console", "json"] := by
  rw [List.isEmpty_iff, List.filter_eq_nil_iff]
  simp only [Bool.not_eq_true, Format.isNone_ofName?_eq_false_iff, mem_normalFormats_iff,
    List.mem_cons (b := "")]
  constructor
  · intro h name hname
    by_cases hempty : normalFormat name = ""
    · exact .inl hempty
    · exact .inr (h _ ⟨hempty, List.mem_map_of_mem hname⟩)
  · rintro h _ ⟨hne, hmem⟩
    obtain ⟨name, hname, rfl⟩ := List.mem_map.1 hmem
    exact (h name hname).resolve_left hne

theorem contains_json_normalFormats_iff {names : List String} :
    (normalFormats names).contains "json" = true ↔
      ∃ name ∈ names, normalFormat name = "json" := by
  rw [List.contains_iff_mem, mem_normalFormats_iff, and_iff_right (by decide), List.mem_map]

theorem pairwise_idxOf_normalFormats (names : List String) :
    (normalFormats names).Pairwise fun x y ↦
      (names.map normalFormat).idxOf x < (names.map normalFormat).idxOf y := by
  have hkept : ∀ {x}, x ∈ normalFormats names → (!x.isEmpty) = true := fun hx ↦
    (List.mem_filter.1 (List.mem_eraseDups.1 hx)).2
  exact (pairwise_idxOf_eraseDups _).imp_of_mem fun hx hy hlt ↦
    idxOf_lt_idxOf_of_filter (hkept hx) (hkept hy) hlt

/-- When all names are known the formats have these names. -/
theorem map_name_filterMap_ofName? {names : List String}
    (h : (names.filter fun name ↦ (Format.ofName? name).isNone).isEmpty = true) :
    (names.filterMap Format.ofName?).map (·.name) = names := by
  rw [List.isEmpty_iff, List.filter_eq_nil_iff] at h
  rw [List.map_filterMap]
  refine (List.filterMap_congr fun name hname ↦ ?_).trans List.filterMap_some
  obtain ⟨format, hformat⟩ := Option.ne_none_iff_exists'.1 (by simpa using h name hname)
  rw [hformat, Option.map_some, Format.ofName?_eq_some_iff.1 hformat]

theorem contains_filterMap_ofName? (names : List String) (format : Format) :
    (names.filterMap Format.ofName?).contains format = names.contains format.name := by
  rw [Bool.eq_iff_iff, List.contains_iff_mem, List.contains_iff_mem, List.mem_filterMap]
  simp only [Format.ofName?_eq_some_iff, exists_eq_right']

end Settings
end SearchFilter
