import Mathlib.Data.List.Forall2

/-!
# Readings one after another

A reading gives a result or says why there is none.  Of readings that follow one another, in a chain or
for the items of a list, the first that fails decides.

* `bind_eq_ok_iff`, `bind_eq_error_iff`: what a chain gives, and why it gives nothing.
* `mapM_eq_ok_iff`, `mapM_eq_error_iff`: the same of the items of a list.
* `Answers` says when a reading fails and with what, and what it gives otherwise; `Answers.bind` joins
  two such statements.
-/

set_option autoImplicit false

namespace SearchFilter

variable {ε α β : Type} {e : ε}

/-- A chain of readings that succeeds does so in each of its links. -/
theorem bind_eq_ok_iff {first : Except ε α} {next : α → Except ε β} {b : β} :
    (first >>= next) = .ok b ↔ ∃ a, first = .ok a ∧ next a = .ok b := by
  constructor
  · intro h
    cases first with
    | error e => cases h
    | ok a => exact ⟨a, rfl, h⟩
  · rintro ⟨a, rfl, h⟩
    exact h

/-- A chain of readings fails in one of its links. -/
theorem bind_eq_error_iff {first : Except ε α} {next : α → Except ε β} :
    (first >>= next) = .error e ↔
      first = .error e ∨ ∃ a, first = .ok a ∧ next a = .error e := by
  constructor
  · intro h
    cases first with
    | error e' =>
      cases h
      exact .inl rfl
    | ok a => exact .inr ⟨a, rfl, h⟩
  · rintro (rfl | ⟨a, rfl, h⟩)
    · rfl
    · exact h

variable {read : α → Except ε β} {as : List α}

/-- **A list that can be read** is read item by item. -/
theorem mapM_eq_ok_iff {bs : List β} :
    as.mapM read = .ok bs ↔ List.Forall₂ (fun a b ↦ read a = .ok b) as bs := by
  induction as generalizing bs with
  | nil =>
    rw [List.mapM_nil, List.forall₂_nil_left_iff]
    exact ⟨fun h ↦ (Except.ok.inj h).symm, fun h ↦ h ▸ rfl⟩
  | cons a as ih =>
    rw [List.mapM_cons, bind_eq_ok_iff, List.forall₂_cons_left_iff]
    simp only [bind_eq_ok_iff, ih]
    constructor
    · rintro ⟨b, hb, bs', hbs, hdone⟩
      exact ⟨b, bs', hb, hbs, (Except.ok.inj hdone).symm⟩
    · rintro ⟨b, bs', hb, hbs, rfl⟩
      exact ⟨b, hb, bs', hbs, rfl⟩

/-- **A list that cannot be read** has a first item that cannot. -/
theorem mapM_eq_error_iff :
    as.mapM read = .error e ↔
      ∃ before a after, as = before ++ a :: after ∧ (∀ a' ∈ before, ∃ b, read a' = .ok b) ∧
        read a = .error e := by
  induction as with
  | nil =>
    rw [List.mapM_nil]
    constructor
    · intro h
      cases h
    · rintro ⟨before, a, after, hsplit, -⟩
      exact absurd hsplit.symm (List.append_ne_nil_of_right_ne_nil _ (List.cons_ne_nil _ _))
  | cons first as ih =>
    rw [List.mapM_cons, bind_eq_error_iff]
    constructor
    · rintro (h | ⟨b, hfirst, h⟩)
      · exact ⟨[], first, as, rfl, fun _ h ↦ absurd h List.not_mem_nil, h⟩
      · rcases bind_eq_error_iff.1 h with h | ⟨_, -, hdone⟩
        · obtain ⟨before, a, after, rfl, hbefore, ha⟩ := ih.1 h
          exact ⟨first :: before, a, after, rfl, List.forall_mem_cons.2 ⟨⟨b, hfirst⟩, hbefore⟩, ha⟩
        · cases hdone
    · rintro ⟨before, a, after, hsplit, hbefore, ha⟩
      cases before with
      | nil =>
        obtain ⟨rfl, rfl⟩ := List.cons.inj hsplit
        exact .inl ha
      | cons a' before =>
        obtain ⟨rfl, rfl⟩ := List.cons.inj hsplit
        obtain ⟨⟨b, hfirst⟩, hbefore⟩ := List.forall_mem_cons.1 hbefore
        exact .inr ⟨b, hfirst, bind_eq_error_iff.2 (.inl (ih.2 ⟨before, a, after, rfl, hbefore, ha⟩))⟩

/-! ## When a reading fails -/

/-- A reading fails with the fault, if there is one, and otherwise gives something good. -/
structure Answers (r : Except ε α) (fault? : Option ε) (good : α → Prop) : Prop where
  eq_error_iff : ∀ e, r = .error e ↔ fault? = some e
  good_of_ok : ∀ a, r = .ok a → good a

namespace Answers

variable {r : Except ε α} {next : α → Except ε β} {fault? fault?' : Option ε} {good : α → Prop}
  {good' : β → Prop}

theorem ok {a : α} (h : good a) : Answers (.ok a : Except ε α) none good :=
  ⟨fun _ ↦ ⟨nofun, nofun⟩, fun _ ha ↦ Except.ok.inj ha ▸ h⟩

theorem error (e : ε) : Answers (.error e) (some e) good :=
  ⟨fun _ ↦ ⟨fun h ↦ congrArg some (Except.error.inj h), fun h ↦ congrArg _ (Option.some.inj h)⟩,
    nofun⟩

theorem exists_ok (h : Answers r none good) : ∃ a, r = .ok a ∧ good a := by
  cases r with
  | ok a => exact ⟨a, rfl, h.good_of_ok a rfl⟩
  | error e => exact absurd ((h.eq_error_iff e).1 rfl) nofun

theorem fault?_eq_none (h : Answers r fault? good) {a : α} (ha : r = .ok a) : fault? = none := by
  refine Option.eq_none_iff_forall_ne_some.2 fun e he ↦ ?_
  rw [(h.eq_error_iff e).2 he] at ha
  cases ha

theorem imp {good' : α → Prop} (h : Answers r fault? good) (himp : ∀ a, good a → good' a) :
    Answers r fault? good' :=
  ⟨h.eq_error_iff, fun a ha ↦ himp a (h.good_of_ok a ha)⟩

/-- **A chain fails with the first fault.** -/
theorem bind (h : Answers r fault? good)
    (hnext : ∀ a, good a → Answers (next a) fault?' good') :
    Answers (r >>= next) (fault?.or fault?') good' := by
  cases r with
  | error e =>
    rw [(h.eq_error_iff e).1 rfl]
    exact .error e
  | ok a =>
    rw [h.fault?_eq_none rfl, Option.none_or]
    exact hnext a (h.good_of_ok a rfl)

end Answers

end SearchFilter
