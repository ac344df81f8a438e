import Mathlib.Data.List.Basic
import SearchFilter.Value.Merge

/-!
# Mappings laid over others

What a key leads to after a merge, and what a merge leaves alone.  No key occurs twice in a mapping,
at any depth, and this is what the laws rest on.

* `Value.KeysOnce` says so of a value and of the mappings below it; `Entries.put` keeps it.
* `Entries.get?_merge`: what a key leads to; `Value.over_mapping`: a mapping over any value is a merge.
* `Entries.nil_merge`, `Entries.merge_self` and `Entries.merge_merge_self`: a mapping over nothing,
  over itself, and laid a second time.
-/

set_option autoImplicit false

namespace SearchFilter

/-- Whether no key occurs twice in a value, nor in a mapping that keys lead to from there. -/
inductive Value.KeysOnce : Value → Prop
  | mapping {entries : Entries} (keys : (entries.map (·.1)).Nodup)
      (values : ∀ entry ∈ entries, KeysOnce entry.2) : KeysOnce (.mapping entries)
  /-- A value that is no mapping has no keys. -/
  | keyless {value : Value} (h : ∀ entries, value ≠ .mapping entries) : KeysOnce value

namespace Entries

variable {base entries upper : Entries} {key : String} {value : Value}

/-! ## Looking a key up -/

theorem get?_cons (entry : String × Value) (entries : Entries) (key : String) :
    get? (entry :: entries) key = if key = entry.1 then some entry.2 else entries.get? key := by
  rw [get?, List.lookup_cons]
  by_cases h : key = entry.1
  · rw [h, beq_self_eq_true, if_pos rfl]
  · rw [beq_false_of_ne h, if_neg h]
    rfl

theorem get?_eq_none_iff : entries.get? key = none ↔ key ∉ entries.map (·.1) := by
  induction entries with
  | nil => simp [get?]
  | cons entry entries ih =>
    rw [get?_cons, List.map_cons, List.mem_cons, not_or, ← ih]
    by_cases h : key = entry.1 <;> simp [h]

theorem mem_of_get?_eq_some (h : entries.get? key = some value) : (key, value) ∈ entries := by
  induction entries with
  | nil => cases h
  | cons entry entries ih =>
    rw [get?_cons] at h
    split at h
    next hk =>
      cases h
      rw [hk]
      exact List.mem_cons_self
    next => exact List.mem_cons_of_mem _ (ih h)

/-- The first entry of a key is the one that counts. -/
theorem get?_eq_some_of_mem (hkeys : (entries.map (·.1)).Nodup) {entry : String × Value}
    (h : entry ∈ entries) : entries.get? entry.1 = some entry.2 := by
  induction entries with
  | nil => cases h
  | cons first entries ih =>
    obtain ⟨hfirst, hrest⟩ := List.nodup_cons.1 hkeys
    rw [get?_cons]
    rcases List.mem_cons.1 h with rfl | hmem
    · rw [if_pos rfl]
    · rw [if_neg fun heq ↦ hfirst (List.mem_map.2 ⟨entry, hmem, heq⟩), ih hrest hmem]

/-! ## Writing a key -/

theorem put_eq_self (h : entries.get? key = some value) : put key value entries = entries := by
  induction entries with
  | nil => cases h
  | cons entry entries ih =>
    obtain ⟨k, v⟩ := entry
    rw [get?_cons] at h
    rw [put]
    split at h
    next hk =>
      cases h
      rw [if_pos hk.symm]
    next hk => rw [if_neg (Ne.symm hk), ih h]

/-- A new key comes behind the others. -/
theorem put_eq_append (h : entries.get? key = none) :
    put key value entries = entries ++ [(key, value)] := by
  induction entries with
  | nil => rfl
  | cons entry entries ih =>
    rw [get?_cons] at h
    split at h
    next => cases h
    next hk => rw [put, if_neg (Ne.symm hk), ih h, List.cons_append]

theorem map_fst_put (key : String) (value : Value) (entries : Entries) :
    (put key value entries).map (·.1) =
      if key ∈ entries.map (·.1) then entries.map (·.1) else entries.map (·.1) ++ [key] := by
  by_cases h : key ∈ entries.map (·.1)
  · rw [if_pos h]
    induction entries with
    | nil => cases h
    | cons entry entries ih =>
      obtain ⟨k, v⟩ := entry
      rw [put]
      split
      next hk => rfl
      next hk =>
        rw [List.map_cons, List.map_cons, ih ((List.mem_cons.1 h).resolve_left (Ne.symm hk))]
  · rw [if_neg h, put_eq_append (get?_eq_none_iff.2 h), List.map_append]
    rfl

theorem mem_put {entry : String × Value} (h : entry ∈ put key value entries) :
    entry = (key, value) ∨ entry ∈ entries := by
  induction entries with
  | nil => exact .inl (List.mem_singleton.1 h)
  | cons first entries ih =>
    rw [put] at h
    split at h
    next hk =>
      rcases List.mem_cons.1 h with rfl | hmem
      · exact .inl (by rw [hk])
      · exact .inr (List.mem_cons_of_mem _ hmem)
    next =>
      rcases List.mem_cons.1 h with rfl | hmem
      · exact .inr List.mem_cons_self
      · exact (ih hmem).imp id (List.mem_cons_of_mem _)

theorem keysOnce_put (h : (Value.mapping entries).KeysOnce) (hvalue : value.KeysOnce) :
    (Value.mapping (put key value entries)).KeysOnce := by
  cases h with
  | keyless h => exact absurd rfl (h entries)
  | mapping keys values =>
    refine .mapping ?_ fun entry hentry ↦ ?_
    · rw [map_fst_put]
      split
      next => exact keys
      next hkey =>
        refine List.nodup_append.2 ⟨keys, by simp, fun k hk k' hk' heq ↦ hkey ?_⟩
        rw [← List.mem_singleton.1 hk', ← heq]
        exact hk
    · rcases mem_put hentry with rfl | hmem
      · exact hvalue
      · exact values entry hmem

/-! ## Merging -/

/-- **A key of the upper mapping wins**, over what was there before; the other keys are left alone. -/
theorem get?_merge (hkeys : (upper.map (·.1)).Nodup) (key : String) :
    (merge base upper).get? key =
      match upper.get? key with
      | some value => some (value.over (base.get? key))
      | none => base.get? key := by
  induction upper generalizing base with
  | nil => rfl
  | cons entry upper ih =>
    obtain ⟨k, v⟩ := entry
    obtain ⟨hnew, hrest⟩ := List.nodup_cons.1 hkeys
    rw [merge, ih hrest, mergeEntry, get?_put, get?_cons]
    by_cases hk : key = k
    · subst hk
      rw [get?_eq_none_iff.2 hnew, if_pos rfl, if_pos rfl]
    · rw [if_neg hk, if_neg hk]

/-- The keys of a merge are those of both mappings. -/
theorem mem_keys_merge :
    key ∈ (merge base upper).map (·.1) ↔ key ∈ upper.map (·.1) ∨ key ∈ base.map (·.1) := by
  induction upper generalizing base with
  | nil => simp
  | cons entry upper ih =>
    obtain ⟨k, v⟩ := entry
    have hput : key ∈ (put k (v.over (base.get? k)) base).map (·.1) ↔
        key = k ∨ key ∈ base.map (·.1) := by
      rw [map_fst_put]
      split
      next hk => exact ⟨.inr, fun h ↦ h.elim (fun heq ↦ heq ▸ hk) id⟩
      next => rw [List.mem_append, List.mem_singleton, or_comm]
    rw [merge, ih, mergeEntry, hput, List.map_cons, List.mem_cons, or_left_comm, or_assoc]

/-- Entries that are there already, and that change nothing when they are laid over what is there,
change nothing in the mapping. -/
theorem merge_eq_self
    (h : ∀ entry ∈ upper, ∃ v, base.get? entry.1 = some v ∧ entry.2.over (some v) = v) :
    merge base upper = base := by
  induction upper with
  | nil => rfl
  | cons entry upper ih =>
    obtain ⟨v, hthere, hover⟩ := h entry List.mem_cons_self
    have hentry : mergeEntry base entry = base := by
      obtain ⟨key, value⟩ := entry
      rw [mergeEntry, hthere, hover]
      exact put_eq_self hthere
    rw [merge, hentry]
    exact ih fun e he ↦ h e (List.mem_cons_of_mem _ he)

/-- Entries with new keys come behind the others. -/
theorem merge_eq_append (hkeys : (upper.map (·.1)).Nodup)
    (hnew : ∀ entry ∈ upper, base.get? entry.1 = none) : merge base upper = base ++ upper := by
  induction upper generalizing base with
  | nil => rw [merge_nil, List.append_nil]
  | cons entry upper ih =>
    obtain ⟨key, value⟩ := entry
    obtain ⟨hfirst, hrest⟩ := List.nodup_cons.1 hkeys
    obtain ⟨hnone, hnew⟩ := List.forall_mem_cons.1 hnew
    have hover : value.over none = value := by cases value <;> rfl
    have hnew' : ∀ entry ∈ upper, (base ++ [(key, value)]).get? entry.1 = none := by
      intro entry hentry
      rw [get?_eq_none_iff, List.map_append, List.mem_append, List.map_singleton,
        List.mem_singleton]
      rintro (hmem | heq)
      · exact get?_eq_none_iff.1 (hnew entry hentry) hmem
      · exact hfirst (List.mem_map.2 ⟨entry, hentry, heq⟩)
    rw [merge, mergeEntry, hnone, hover, put_eq_append hnone, ih hrest hnew', List.append_assoc,
      List.singleton_append]

/-- A mapping over nothing is itself. -/
theorem nil_merge (hkeys : (upper.map (·.1)).Nodup) : merge [] upper = upper :=
  merge_eq_append hkeys fun _ _ ↦ rfl

/-- The entries of a value; one that is not there, or no mapping, has none. -/
def ofValue : Option Value → Entries
  | some (.mapping entries) => entries
  | _ => []

theorem mem_keys_ofValue {value : Option Value} :
    key ∈ (ofValue value).map (·.1) ↔
      ∃ entries, value = some (.mapping entries) ∧ key ∈ entries.map (·.1) := by
  unfold ofValue
  split
  next entries => simp
  next hno => simpa using fun entries heq ↦ absurd heq (hno entries)

end Entries

namespace Value

open Entries

variable {upper : Entries} {value : Value}

theorem KeysOnce.nodup (h : (Value.mapping upper).KeysOnce) : (upper.map (·.1)).Nodup := by
  cases h with
  | mapping keys => exact keys
  | keyless h => exact absurd rfl (h upper)

theorem KeysOnce.of_get? (h : (Value.mapping upper).KeysOnce) {key : String}
    (hvalue : upper.get? key = some value) : value.KeysOnce := by
  cases h with
  | mapping _ values => exact values _ (mem_of_get?_eq_some hvalue)
  | keyless h => exact absurd rfl (h upper)

/-- **A mapping laid over any value** is laid over its entries. -/
theorem over_mapping (hkeys : (upper.map (·.1)).Nodup) (before : Option Value) :
    (mapping upper).over before = mapping (merge (ofValue before) upper) := by
  have hnothing : mapping upper = mapping (merge [] upper) := by rw [nil_merge hkeys]
  cases before with
  | none => exact hnothing
  | some v =>
    cases v with
    | mapping base => rfl
    | _ => exact hnothing

/-- A value that is no mapping replaces what was there before. -/
theorem over_of_ne_mapping (h : ∀ entries, value ≠ mapping entries) (before : Option Value) :
    value.over before = value := by
  cases value with
  | mapping entries => exact absurd rfl (h entries)
  | _ => rfl

/-- **A value that is laid over another a second time** changes nothing any more. -/
theorem KeysOnce.over_over (h : value.KeysOnce) (before : Option Value) :
    value.over (some (value.over before)) = value.over before := by
  induction h generalizing before with
  | @mapping upper keys values ih =>
    rw [over_mapping keys before, Value.over, merge_eq_self fun entry hentry ↦
      ⟨entry.2.over ((ofValue before).get? entry.1), ?_, ih entry hentry _⟩]
    rw [get?_merge keys, get?_eq_some_of_mem keys hentry]
  | keyless h => rw [over_of_ne_mapping h, over_of_ne_mapping h]

end Value

/-- **A mapping that is laid over another a second time** changes nothing any more. -/
theorem Entries.merge_merge_self {base upper : Entries} (h : (Value.mapping upper).KeysOnce) :
    merge (merge base upper) upper = merge base upper :=
  Value.mapping.inj (h.over_over (some (.mapping base)))

/-- **A mapping laid over itself stays as it was.** -/
theorem Entries.merge_self {entries : Entries} (h : (Value.mapping entries).KeysOnce) :
    merge entries entries = entries := by
  have hagain : merge (merge [] entries) entries = merge [] entries := merge_merge_self h
  rwa [nil_merge h.nodup] at hagain

end SearchFilter
