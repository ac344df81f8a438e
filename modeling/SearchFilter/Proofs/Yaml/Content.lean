import Mathlib.Data.Finset.Card
import Mathlib.Data.Finset.Prod
import Mathlib.Tactic.SplitIfs
import SearchFilter.Proofs.Value.Merge
import SearchFilter.Yaml.Content

/-!
# Values of documents and their merging

However often a document writes a key in one mapping, its value has the key once.  Two documents cannot
be merged if both hold themselves along the same keys; this shows in finitely many steps, because there
are only so many pairs of values.

* `Yaml.Content.keysOnce_entries`: keys of the value on top.
* `Yaml.Content.Ends` says that no way from a value to its members leads on without end;
  `Yaml.Content.IsFinite` says so of a document.
* `Yaml.Content.mergesEndlessly_iff`: merging leads to no end just when it leads as far down as one likes.
* `Yaml.Content.mergesEndlessly_eq_false`: a document without such ways can be laid over any other.
-/

set_option autoImplicit false

namespace SearchFilter
namespace Yaml

/-! ## Keys -/

/-- Whether all values have each key once.  One that is not there counts as nothing. -/
def KeysAllOnce (values : Array Value) : Prop :=
  ∀ ref, (values.getD ref .null).KeysOnce

theorem keysOnce_of_isScalar {value : Value} (h : value.isScalar = true) : value.KeysOnce :=
  .keyless fun entries heq ↦ by rw [heq] at h; cases h

namespace Content

/-- Later entries take the place of earlier ones with the same key. -/
theorem keysOnce_entriesOf {values : Array Value} (h : KeysAllOnce values)
    (entries : List (String × Ref)) : (Value.mapping (entriesOf values entries)).KeysOnce :=
  List.foldlRecOn (motive := fun known : Entries ↦ (Value.mapping known).KeysOnce) entries _
    (.mapping List.nodup_nil fun _ ↦ nofun) fun _ hknown entry _ ↦
      Entries.keysOnce_put hknown (h entry.2)

theorem keysOnce_ofShape {values : Array Value} (h : KeysAllOnce values) (shape : Shape) :
    (ofShape values shape).KeysOnce := by
  cases shape with
  | scalar value hscalar => exact keysOnce_of_isScalar hscalar
  | list items => exact .keyless fun _ ↦ nofun
  | mapping entries => exact keysOnce_entriesOf h entries

variable (content : Content)

theorem keysAllOnce_values (levels : Nat) : KeysAllOnce (content.values levels) := by
  induction levels with
  | zero => exact fun _ ↦ keysOnce_of_isScalar rfl
  | succ levels ih =>
    intro ref
    rw [values, Array.getD_eq_getD_getElem?, Array.getElem?_map]
    cases content.shapes[ref]? with
    | none => exact keysOnce_of_isScalar rfl
    | some shape => exact keysOnce_ofShape ih shape

/-- **The value on top has each key once**, in every mapping. -/
theorem keysOnce_entries (levels : Nat) : (Value.mapping (content.entries levels)).KeysOnce := by
  have hvalue : (content.value levels).KeysOnce := content.keysAllOnce_values levels content.top
  rw [entries]
  split
  next entries heq => rwa [heq] at hvalue
  next => exact .mapping List.nodup_nil fun _ ↦ nofun

/-! ## How far down merging leads -/

variable {content} {base upper : Content} {levels more : Nat} {pair next : Ref × Ref}

theorem goesOn_succ_iff :
    goesOn base upper (levels + 1) pair = true ↔
      ∃ next ∈ below base upper pair, goesOn base upper levels next = true := by
  rw [goesOn, List.any_eq_true]

theorem goesOn_of_goesOn_succ (h : goesOn base upper (levels + 1) pair = true) :
    goesOn base upper levels pair = true := by
  induction levels generalizing pair with
  | zero => rfl
  | succ levels ih =>
    obtain ⟨next, hnext, h⟩ := goesOn_succ_iff.1 h
    exact goesOn_succ_iff.2 ⟨next, hnext, ih h⟩

theorem goesOn_of_le (hle : levels ≤ more) (h : goesOn base upper more pair = true) :
    goesOn base upper levels pair = true := by
  induction more, hle using Nat.le_induction with
  | base => exact h
  | succ more _ ih => exact ih (goesOn_of_goesOn_succ h)

/-- A mapping has one of the numbers of its document. -/
theorem lt_size_of_isMapping {ref : Ref} (h : content.isMapping ref = true) :
    ref < content.shapes.size := by
  by_contra hout
  rw [isMapping, shape, Array.getD_eq_getD_getElem?, Array.getElem?_eq_none (Nat.not_lt.1 hout)] at h
  cases h

/-- The pairs of values of two documents. -/
def pairs (base upper : Content) : Finset (Ref × Ref) :=
  Finset.range base.shapes.size ×ˢ Finset.range upper.shapes.size

theorem card_pairs (base upper : Content) :
    (pairs base upper).card = base.shapes.size * upper.shapes.size := by
  rw [pairs, Finset.card_product, Finset.card_range, Finset.card_range]

theorem mem_pairs_of_mem_below (h : next ∈ below base upper pair) : next ∈ pairs base upper := by
  obtain ⟨⟨key, _⟩, -, hkey⟩ := List.mem_filterMap.1 h
  dsimp only at hkey
  split at hkey
  next ref ref' _ _ =>
    split_ifs at hkey with hmappings
    cases hkey
    rw [Bool.and_eq_true] at hmappings
    exact Finset.mem_product.2 ⟨Finset.mem_range.2 (lt_size_of_isMapping hmappings.1),
      Finset.mem_range.2 (lt_size_of_isMapping hmappings.2)⟩
  next => cases hkey

/-- The pairs from which merging leads some levels down. -/
def deepPairs (base upper : Content) (levels : Nat) : Finset (Ref × Ref) :=
  (pairs base upper).filter fun pair ↦ goesOn base upper levels pair = true

theorem mem_deepPairs_iff :
    pair ∈ deepPairs base upper levels ↔
      pair ∈ pairs base upper ∧ goesOn base upper levels pair = true :=
  Finset.mem_filter

/-- Merging leads one level further just when it leads on from a pair below. -/
theorem goesOn_succ_iff_deepPairs :
    goesOn base upper (levels + 1) pair = true ↔
      ∃ next ∈ below base upper pair, next ∈ deepPairs base upper levels := by
  rw [goesOn_succ_iff]
  exact exists_congr fun next ↦ and_congr_right fun hnext ↦
    (mem_deepPairs_iff.trans (and_iff_right (mem_pairs_of_mem_below hnext))).symm

theorem deepPairs_succ_subset (base upper : Content) (levels : Nat) :
    deepPairs base upper (levels + 1) ⊆ deepPairs base upper levels := by
  intro pair hpair
  obtain ⟨hmem, h⟩ := mem_deepPairs_iff.1 hpair
  exact mem_deepPairs_iff.2 ⟨hmem, goesOn_of_goesOn_succ h⟩

theorem deepPairs_succ_congr (h : deepPairs base upper (levels + 1) = deepPairs base upper levels) :
    deepPairs base upper (levels + 2) = deepPairs base upper (levels + 1) := by
  ext pair
  rw [mem_deepPairs_iff, mem_deepPairs_iff, goesOn_succ_iff_deepPairs, goesOn_succ_iff_deepPairs, h]

/-- As long as there are fewer pairs on each level, one is lost from level to level. -/
theorem deepPairs_succ_eq_or_card_le (base upper : Content) (levels : Nat) :
    deepPairs base upper (levels + 1) = deepPairs base upper levels ∨
      (deepPairs base upper (levels + 1)).card + (levels + 1) ≤ (pairs base upper).card := by
  have hlost : ∀ {levels}, deepPairs base upper (levels + 1) ≠ deepPairs base upper levels →
      (deepPairs base upper (levels + 1)).card < (deepPairs base upper levels).card := fun hne ↦
    Finset.card_lt_card ((deepPairs_succ_subset base upper _).ssubset_of_ne hne)
  induction levels with
  | zero =>
    by_cases heq : deepPairs base upper 1 = deepPairs base upper 0
    · exact .inl heq
    · have hall := Finset.card_filter_le (pairs base upper) fun pair ↦ goesOn base upper 0 pair = true
      exact .inr (Nat.lt_of_lt_of_le (hlost heq) hall)
  | succ levels ih =>
    by_cases heq : deepPairs base upper (levels + 2) = deepPairs base upper (levels + 1)
    · exact .inl heq
    · rcases ih with hsame | hcard
      · exact absurd (deepPairs_succ_congr hsame) heq
      · have := hlost heq
        exact .inr (by omega)

/-- From the number of pairs on, each level has the same pairs. -/
theorem deepPairs_eq_of_card_le (h : (pairs base upper).card ≤ levels) :
    deepPairs base upper levels = deepPairs base upper (pairs base upper).card := by
  have hstable : deepPairs base upper ((pairs base upper).card + 1) =
      deepPairs base upper (pairs base upper).card :=
    (deepPairs_succ_eq_or_card_le base upper _).resolve_right (by omega)
  have hnext : ∀ levels, (pairs base upper).card ≤ levels →
      deepPairs base upper (levels + 1) = deepPairs base upper levels := by
    intro levels hle
    induction levels, hle using Nat.le_induction with
    | base => exact hstable
    | succ levels _ ih => exact deepPairs_succ_congr ih
  induction levels, h using Nat.le_induction with
  | base => rfl
  | succ levels hle ih => rw [hnext levels hle, ih]

/-- **Merging leads to no end** just when it leads as far down as one likes. -/
theorem mergesEndlessly_iff :
    base.mergesEndlessly upper = true ↔
      ∀ levels, goesOn base upper levels (base.top, upper.top) = true := by
  rw [mergesEndlessly, ← card_pairs]
  refine ⟨fun h levels ↦ ?_, fun h ↦ h _⟩
  rcases Nat.le_total levels ((pairs base upper).card + 1) with hle | hle
  · exact goesOn_of_le hle h
  · obtain ⟨next, hnext, hdeep⟩ := goesOn_succ_iff_deepPairs.1 h
    refine goesOn_of_goesOn_succ (goesOn_succ_iff_deepPairs.2 ⟨next, hnext, ?_⟩)
    rwa [deepPairs_eq_of_card_le (Nat.le_trans (Nat.le_succ _) hle)]

end Content

/-! ## Documents that do not hold themselves -/

/-- The members of a value. -/
def Shape.members : Shape → List Ref
  | scalar _ _ => []
  | list items => items
  | mapping entries => entries.map (·.2)

namespace Content

variable {content base upper : Content} {ref ref' : Ref}

/-- Whether no way from a value to its members leads on without end. -/
inductive Ends (content : Content) : Ref → Prop
  | intro {ref : Ref} (members : ∀ member ∈ (content.shape ref).members, Ends content member) :
      Ends content ref

/-- Whether no value of a document holds itself, as far as the one on top leads. -/
def IsFinite (content : Content) : Prop :=
  content.Ends content.top

theorem isFinite_empty : empty.IsFinite :=
  .intro fun _ ↦ nofun

/-- Whether all ways from a value to its members end within some levels. -/
def endsWithin (content : Content) : (levels : Nat) → Ref → Bool
  | 0, _ => false
  | levels + 1, ref => (content.shape ref).members.all fun member ↦ content.endsWithin levels member

theorem ends_of_endsWithin {levels : Nat} (h : content.endsWithin levels ref = true) :
    content.Ends ref := by
  induction levels generalizing ref with
  | zero => cases h
  | succ levels ih => exact .intro fun member hmember ↦ ih (List.all_eq_true.1 h member hmember)

theorem mem_members_of_mem_fields {entry : String × Ref} (h : entry ∈ content.fields ref) :
    entry.2 ∈ (content.shape ref).members := by
  rw [fields] at h
  cases hshape : content.shape ref with
  | scalar value hscalar =>
    rw [hshape] at h
    cases h
  | list items =>
    rw [hshape] at h
    cases h
  | mapping entries =>
    rw [hshape] at h
    exact List.mem_map.2 ⟨entry, h, rfl⟩

/-- The pairs below a pair are made of members. -/
theorem mem_members_of_mem_below {next pair : Ref × Ref} (h : next ∈ below base upper pair) :
    next.2 ∈ (upper.shape pair.2).members := by
  obtain ⟨⟨key, _⟩, -, hkey⟩ := List.mem_filterMap.1 h
  dsimp only at hkey
  split at hkey
  next heq =>
    split_ifs at hkey
    cases hkey
    obtain ⟨before, after, hfields, -⟩ := List.lookup_eq_some_iff.1 heq
    exact mem_members_of_mem_fields (List.mem_reverse.1
      (hfields ▸ List.mem_append_right before List.mem_cons_self))
  next => cases hkey

/-- **Merging leads only so far down** where all ways end. -/
theorem Ends.exists_goesOn_eq_false (h : upper.Ends ref) (base : Content) :
    ∃ levels, ∀ other, goesOn base upper levels (other, ref) = false := by
  induction h with
  | @intro ref _ ih =>
    have hall : ∀ members : List Ref, (∀ member ∈ members, member ∈ (upper.shape ref).members) →
        ∃ levels, ∀ member ∈ members, ∀ other, goesOn base upper levels (other, member) = false := by
      intro members hmembers
      induction members with
      | nil => exact ⟨0, List.forall_mem_nil _⟩
      | cons member members ihm =>
        obtain ⟨hmember, hrest⟩ := List.forall_mem_cons.1 hmembers
        obtain ⟨levels, hlevels⟩ := ih member hmember
        obtain ⟨levels', hlevels'⟩ := ihm hrest
        refine ⟨max levels levels', List.forall_mem_cons.2 ⟨fun other ↦ ?_, fun m hm other ↦ ?_⟩⟩
        · exact Bool.eq_false_iff.2 fun htrue ↦ Bool.eq_false_iff.1 (hlevels other)
            (goesOn_of_le (Nat.le_max_left _ _) htrue)
        · exact Bool.eq_false_iff.2 fun htrue ↦ Bool.eq_false_iff.1 (hlevels' m hm other)
            (goesOn_of_le (Nat.le_max_right _ _) htrue)
    obtain ⟨levels, hlevels⟩ := hall _ fun _ h ↦ h
    refine ⟨levels + 1, fun other ↦ Bool.eq_false_iff.2 fun htrue ↦ ?_⟩
    obtain ⟨⟨other', member⟩, hnext, hon⟩ := goesOn_succ_iff.1 htrue
    exact Bool.eq_false_iff.1 (hlevels member (mem_members_of_mem_below hnext) other') hon

/-- **A document that does not hold itself** can be laid over any other. -/
theorem mergesEndlessly_eq_false (h : upper.IsFinite) (base : Content) :
    base.mergesEndlessly upper = false := by
  obtain ⟨levels, hlevels⟩ := Ends.exists_goesOn_eq_false h base
  exact Bool.eq_false_iff.2 fun hendless ↦
    Bool.eq_false_iff.1 (hlevels base.top) (mergesEndlessly_iff.1 hendless levels)

end Content
end Yaml
end SearchFilter
