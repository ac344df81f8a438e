import SearchFilter.Proofs.Value.Merge

/-!
# What paths lead to in merged mappings

A path of keys leads from a mapping through the mappings below it.  What it leads to in a merge is
decided by the upper mapping as far as that goes, and by the base where the upper mapping has nothing
to say.

* `Value.at?` follows a path, `Value.EndsWithin` says that a value ends before the path does.
* `Value.KeysOnce.at?_over` and `Value.KeysOnce.at?_over_of_eq_none`: what a path leads to in a value
  laid over another.
* `Entries.merge_by_path`: what a path leads to in a merge, and the merges that change nothing.
-/

set_option autoImplicit false

namespace SearchFilter
namespace Value

/-- What a path of keys leads to. -/
def at? : Value → List String → Option Value
  | value, [] => some value
  | mapping entries, key :: path => (Entries.get? entries key).bind (·.at? path)
  | _, _ :: _ => none

/-- Whether a value is a mapping. -/
def isMapping : Value → Bool
  | mapping _ => true
  | _ => false

/-- Whether a value ends before a path does: on the way, the path leads to what is no mapping. -/
def EndsWithin (value : Value) (path : List String) : Prop :=
  ∃ way v, way <+: path ∧ way ≠ path ∧ value.at? way = some v ∧ v.isMapping = false

variable {value v : Value} {path : List String}

/-! ## Paths -/

@[simp]
theorem at?_nil (value : Value) : value.at? [] = some value := by
  cases value <;> rfl

theorem at?_cons (value : Value) (key : String) (path : List String) :
    value.at? (key :: path) = ((Entries.ofValue (some value)).get? key).bind (·.at? path) := by
  cases value <;> rfl

theorem bind_at?_cons (before : Option Value) (key : String) (path : List String) :
    before.bind (·.at? (key :: path)) = ((Entries.ofValue before).get? key).bind (·.at? path) := by
  cases before with
  | none => rfl
  | some v => exact v.at?_cons key path

theorem at?_append (value : Value) (way rest : List String) :
    value.at? (way ++ rest) = (value.at? way).bind (·.at? rest) := by
  induction way generalizing value with
  | nil => rw [List.nil_append, at?_nil, Option.bind_some]
  | cons key way ih =>
    rw [List.cons_append, at?_cons, at?_cons, Option.bind_assoc]
    simp only [ih]

theorem at?_cons_of_isMapping_eq_false (h : value.isMapping = false) (key : String)
    (path : List String) : value.at? (key :: path) = none := by
  cases value with
  | mapping entries => cases h
  | _ => rfl

theorem ne_mapping_of_isMapping_eq_false (h : value.isMapping = false) (entries : Entries) :
    value ≠ mapping entries := by
  rintro rfl
  cases h

theorem over_of_isMapping_eq_false (h : value.isMapping = false) (before : Option Value) :
    value.over before = value :=
  over_of_ne_mapping (ne_mapping_of_isMapping_eq_false h) before

theorem KeysOnce.of_at? (h : value.KeysOnce) (hv : value.at? path = some v) : v.KeysOnce := by
  induction path generalizing value with
  | nil =>
    rw [at?_nil, Option.some.injEq] at hv
    rwa [← hv]
  | cons key path ih =>
    cases value with
    | mapping entries =>
      obtain ⟨u, hu, hpath⟩ := Option.bind_eq_some_iff.1 hv
      exact ih (h.of_get? hu) hpath
    | _ => cases hv

theorem endsWithin_cons_iff {entries : Entries} {key : String} :
    (mapping entries).EndsWithin (key :: path) ↔
      ∃ v, entries.get? key = some v ∧ v.EndsWithin path := by
  constructor
  · rintro ⟨way, w, hway, hne, hw, hend⟩
    cases way with
    | nil =>
      cases hw
      cases hend
    | cons first way =>
      obtain ⟨rfl, hrest⟩ := List.cons_prefix_cons.1 hway
      obtain ⟨v, hv, hw⟩ := Option.bind_eq_some_iff.1 hw
      exact ⟨v, hv, way, w, hrest, fun heq ↦ hne (by rw [heq]), hw, hend⟩
  · rintro ⟨v, hv, way, w, hway, hne, hw, hend⟩
    refine ⟨key :: way, w, List.cons_prefix_cons.2 ⟨rfl, hway⟩, ?_, ?_, hend⟩
    · exact fun heq ↦ hne (List.cons.inj heq).2
    · rw [at?, hv, Option.bind_some, hw]

/-! ## Paths in a value laid over another -/

/-- **What a path leads to** is laid over what it led to before. -/
theorem KeysOnce.at?_over (h : value.KeysOnce) (hv : value.at? path = some v)
    (before : Option Value) :
    (value.over before).at? path = some (v.over (before.bind (·.at? path))) := by
  induction path generalizing value before with
  | nil =>
    rw [at?_nil, Option.some.injEq] at hv
    subst hv
    simp only [at?_nil, Option.bind_fun_some]
  | cons key path ih =>
    cases value with
    | mapping upper =>
      obtain ⟨u, hu, hpath⟩ := Option.bind_eq_some_iff.1 hv
      rw [over_mapping h.nodup, at?, Entries.get?_merge h.nodup, hu, bind_at?_cons]
      exact ih (h.of_get? hu) hpath _
    | _ => cases hv

/-- **Where a path leads to nothing** though no value ends before it does, nothing has changed. -/
theorem KeysOnce.at?_over_of_eq_none (h : value.KeysOnce) (hnone : value.at? path = none)
    (hends : ¬value.EndsWithin path) (before : Option Value) :
    (value.over before).at? path = before.bind (·.at? path) := by
  induction path generalizing value before with
  | nil => cases (at?_nil value).symm.trans hnone
  | cons key path ih =>
    cases value with
    | mapping upper =>
      rw [over_mapping h.nodup, at?, Entries.get?_merge h.nodup, bind_at?_cons]
      cases hu : Entries.get? upper key with
      | none => rfl
      | some u =>
        rw [at?, hu, Option.bind_some] at hnone
        exact ih (h.of_get? hu) hnone (fun hend ↦ hends (endsWithin_cons_iff.2 ⟨u, hu, hend⟩)) _
    | _ => exact absurd ⟨[], _, List.nil_prefix, (List.cons_ne_nil _ _).symm, rfl, rfl⟩ hends

/-- **Where a value ends before a path does** the path leads to nothing in what is below it. -/
theorem KeysOnce.at?_over_of_endsWithin (h : value.KeysOnce) (hends : value.EndsWithin path)
    (before : Option Value) : (value.over before).at? path = none := by
  obtain ⟨way, v, ⟨rest, rfl⟩, hne, hv, hend⟩ := hends
  have hrest : rest ≠ [] := by
    rintro rfl
    exact hne (List.append_nil way).symm
  obtain ⟨key, rest, rfl⟩ := List.exists_cons_of_ne_nil hrest
  rw [at?_append, h.at?_over hv, Option.bind_some, over_of_isMapping_eq_false hend,
    at?_cons_of_isMapping_eq_false hend]

end Value

namespace Entries

/-- **A merge, path by path**, of mappings in which no key occurs twice, and the merges that change
nothing.  What is no mapping in the upper one stands as it is, and nothing is left below it; mappings
at one path have the keys of both; and where the upper one has nothing to say all is as in the base. -/
theorem merge_by_path {base upper : Entries} (hbase : (Value.mapping base).KeysOnce)
    (hupper : (Value.mapping upper).KeysOnce) :
    (∀ path v, (Value.mapping upper).at? path = some v → v.isMapping = false →
      (Value.mapping (merge base upper)).at? path = some v) ∧
    (∀ path, (Value.mapping upper).EndsWithin path →
      (Value.mapping (merge base upper)).at? path = none) ∧
    (∀ path, (Value.mapping upper).at? path = none → ¬(Value.mapping upper).EndsWithin path →
      (Value.mapping (merge base upper)).at? path = (Value.mapping base).at? path) ∧
    (∀ path entries, (Value.mapping upper).at? path = some (.mapping entries) →
      ∃ merged, (Value.mapping (merge base upper)).at? path = some (.mapping merged) ∧
        ∀ key, key ∈ merged.map (·.1) ↔ key ∈ entries.map (·.1) ∨
          ∃ below, (Value.mapping base).at? path = some (.mapping below) ∧
            key ∈ below.map (·.1)) ∧
    merge base [] = base ∧ merge [] upper = upper ∧ merge base base = base ∧
      merge (merge base upper) upper = merge base upper := by
  have hover : Value.mapping (merge base upper) =
      (Value.mapping upper).over (some (.mapping base)) := rfl
  refine ⟨fun path v hv hend ↦ ?_, fun path hends ↦ ?_, fun path hnone hends ↦ ?_,
    fun path entries hentries ↦ ?_, merge_nil base, nil_merge hupper.nodup, merge_self hbase,
    merge_merge_self hupper⟩
  · rw [hover, hupper.at?_over hv, Value.over_of_isMapping_eq_false hend]
  · rw [hover, hupper.at?_over_of_endsWithin hends]
  · rw [hover, hupper.at?_over_of_eq_none hnone hends, Option.bind_some]
  · have hkeys := (hupper.of_at? hentries).nodup
    rw [hover, hupper.at?_over hentries, Option.bind_some, Value.over_mapping hkeys]
    refine ⟨_, rfl, fun key ↦ ?_⟩
    rw [mem_keys_merge, mem_keys_ofValue]

/-- A number is replaced by a mapping, one mapping by a number, and two mappings are merged. -/
theorem merge_by_path_three_keys :
    ∃ base upper : Entries,
      base = [("a", .mapping [("x", .int 1), ("y", .mapping [("z", .int 2)])]), ("b", .int 3)] ∧
      upper = [("a", .mapping [("y", .int 5)]), ("b", .mapping [("w", .null)])] ∧
      (Value.mapping (merge base upper)).at? ["a", "x"] = some (.int 1) ∧
      (Value.mapping (merge base upper)).at? ["a", "y"] = some (.int 5) ∧
      (Value.mapping (merge base upper)).at? ["a", "y", "z"] = none ∧
      (∃ merged, (Value.mapping (merge base upper)).at? ["a"] = some (.mapping merged) ∧
        "x" ∈ merged.map (·.1) ∧ "z" ∉ merged.map (·.1)) ∧
      merge (merge base upper) upper = merge base upper := by
  have hplain : ∀ {v : Value}, v.isMapping = false → v.KeysOnce := fun h ↦
    .keyless (Value.ne_mapping_of_isMapping_eq_false h)
  have hnone : ∀ entry ∈ ([] : Entries), entry.2.KeysOnce := fun _ h ↦ absurd h List.not_mem_nil
  have hone : ∀ {key v}, v.KeysOnce → (Value.mapping [(key, v)]).KeysOnce := fun h ↦
    .mapping (List.pairwise_singleton _ _) (List.forall_mem_cons.2 ⟨h, hnone⟩)
  have hbase : (Value.mapping
      [("a", .mapping [("x", .int 1), ("y", .mapping [("z", .int 2)])]), ("b", .int 3)]).KeysOnce := by
    refine .mapping (by decide) (List.forall_mem_cons.2 ⟨.mapping (by decide) ?_, ?_⟩)
    · exact List.forall_mem_cons.2 ⟨hplain rfl, List.forall_mem_cons.2 ⟨hone (hplain rfl), hnone⟩⟩
    · exact List.forall_mem_cons.2 ⟨hplain rfl, hnone⟩
  have hupper : (Value.mapping
      [("a", .mapping [("y", .int 5)]), ("b", .mapping [("w", .null)])]).KeysOnce :=
    .mapping (by decide) (List.forall_mem_cons.2 ⟨hone (hplain rfl),
      List.forall_mem_cons.2 ⟨hone (hplain rfl), hnone⟩⟩)
  obtain ⟨hplace, hends, hleft, hmappings, -, -, -, hagain⟩ := merge_by_path hbase hupper
  obtain ⟨merged, hmerged, hkeys⟩ := hmappings ["a"] _ rfl
  refine ⟨_, _, rfl, rfl, hleft ["a", "x"] rfl ?_, hplace ["a", "y"] _ rfl rfl,
    hends ["a", "y", "z"] ?_, ⟨merged, hmerged, (hkeys "x").2 (.inr ⟨_, rfl, by decide⟩), ?_⟩, hagain⟩
  · rw [Value.endsWithin_cons_iff]
    rintro ⟨v, hv, hends⟩
    cases hv
    obtain ⟨_, hx, -⟩ := Value.endsWithin_cons_iff.1 hends
    cases hx
  · exact ⟨["a", "y"], _, ⟨["z"], rfl⟩, by decide, rfl, rfl⟩
  · rw [hkeys]
    rintro (hz | ⟨below, hbelow, hz⟩)
    · revert hz
      decide
    · cases hbelow
      revert hz
      decide

end Entries
end SearchFilter
