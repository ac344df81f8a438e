import SearchFilter.Proofs.Conditions

/-!
# Negation over a list of tokens

The marks of negation are folded into operators from left to right, with one of two states.  What
the fold gives can be told from the list alone: a plain literal is excluded when a mark stands
before it and no other plain literal in between.

* `Since` says that a mark is set and not reset; `since_succ` takes one element more.
* `NegationState.fst_step_eq_pending_iff` and `NegationState.snd_step`: one token.
* `NegationState.fst_run_take_eq_pending_iff` and `NegationState.snd_run_take`: the first tokens of a
  list.
* `NegationState.run_mark_literal`: a mark may change places with a literal whose shape decides its
  operator.
* `negation_is_folded`: the conditions of a list of tokens, and what may be done to its marks.
-/

set_option autoImplicit false

namespace SearchFilter

/-! ## Marks that are set and reset -/

section Since

variable {α : Type} {set reset : α → Bool} {xs : List α} {i : Nat}

/-- Whether one of the first `i` elements of a list sets a mark that from there on none resets. -/
def Since (set reset : α → Bool) (xs : List α) (i : Nat) : Prop :=
  ∃ k < i, xs[k]?.any set = true ∧ ∀ j, k ≤ j → j < i → xs[j]?.any reset = false

instance : Decidable (Since set reset xs i) :=
  inferInstanceAs (Decidable (∃ k, k < i ∧ _))

theorem not_since_zero : ¬Since set reset xs 0 := by
  rintro ⟨k, hk, -⟩
  exact Nat.not_lt_zero k hk

/-- **One element more**: the mark stands behind it when it does not reset it, and sets it or finds
it set. -/
theorem since_succ : Since set reset xs (i + 1) ↔
    xs[i]?.any reset = false ∧ (xs[i]?.any set = true ∨ Since set reset xs i) := by
  constructor
  · rintro ⟨k, hk, hset, hreset⟩
    refine ⟨hreset i (Nat.le_of_lt_succ hk) (Nat.lt_succ_self i), ?_⟩
    rcases Nat.eq_or_lt_of_le (Nat.le_of_lt_succ hk) with rfl | hk
    · exact .inl hset
    · exact .inr ⟨k, hk, hset, fun j hkj hj ↦ hreset j hkj (Nat.lt_succ_of_lt hj)⟩
  · rintro ⟨hlast, hset | ⟨k, hk, hset, hreset⟩⟩
    · refine ⟨i, Nat.lt_succ_self i, hset, fun j hij hj ↦ ?_⟩
      rwa [Nat.le_antisymm (Nat.le_of_lt_succ hj) hij]
    · refine ⟨k, Nat.lt_succ_of_lt hk, hset, fun j hkj hj ↦ ?_⟩
      rcases Nat.eq_or_lt_of_le (Nat.le_of_lt_succ hj) with rfl | hj
      · exact hlast
      · exact hreset j hkj hj

end Since

/-! ## One token -/

namespace Token

/-- Whether a token is a mark of negation. -/
def isMark : Token → Bool
  | negate => true
  | literal _ => false

/-- Whether a token is a literal whose shape decides no operator. -/
def isPlain : Token → Bool
  | negate => false
  | literal text => (classify text.toList).isNone

/-- The condition that a token gives, by whether a negation waits for it. -/
def condition? (waits : Prop) [Decidable waits] : Token → Option Condition
  | negate => none
  | literal text => some ⟨text, (classify text.toList).getD (if waits then .not else .like)⟩

end Token

namespace NegationState

theorem plainOperator_eq_ite (state : NegationState) :
    state.plainOperator = if state = pending then .not else .like := by
  cases state <;> rfl

theorem eq_ite_pending (state : NegationState) {p : Prop} [Decidable p]
    (h : state = pending ↔ p) : state = if p then pending else clear := by
  split_ifs with hp
  · exact h.2 hp
  · cases state with
    | clear => rfl
    | pending => exact absurd (h.1 rfl) hp

/-- **A negation waits behind a token** that is no plain literal, when the token is a mark or a
negation waited before it. -/
theorem fst_step_eq_pending_iff (state : NegationState) (token : Token) :
    (state.step token).1 = pending ↔
      token.isPlain = false ∧ (token.isMark = true ∨ state = pending) := by
  cases token with
  | negate => simp [step, Token.isPlain, Token.isMark]
  | literal text =>
    rw [step_literal, Token.isPlain, Token.isMark]
    cases classify text.toList <;> simp

theorem snd_step (state : NegationState) (token : Token) :
    (state.step token).2 = token.condition? (state = pending) := by
  cases token with
  | negate => rfl
  | literal text => rw [step_literal, operatorFor, plainOperator_eq_ite, Token.condition?]

theorem run_singleton (state : NegationState) (token : Token) :
    state.run [token] = ((state.step token).1, (state.step token).2.toList) :=
  congrArg (Prod.mk _) (List.append_nil _)

/-! ## The tokens of a list, one after another -/

variable {tokens : List Token} {i : Nat}

/-- **The state behind the first tokens of a list**: a negation waits when a mark stands among them
and no plain literal behind it. -/
theorem fst_run_take_eq_pending_iff (hi : i ≤ tokens.length) :
    (clear.run (tokens.take i)).1 = pending ↔ Since Token.isMark Token.isPlain tokens i := by
  induction i with
  | zero => simp [run, not_since_zero]
  | succ i ih =>
    rw [List.take_succ_eq_append_getElem hi, run_append, run_singleton, fst_step_eq_pending_iff,
      since_succ, List.getElem?_eq_getElem hi, Option.any_some, Option.any_some,
      ih (Nat.le_of_succ_le hi)]

/-- **The conditions of the first tokens of a list**, each by its own token and what stands before
it. -/
theorem snd_run_take (hi : i ≤ tokens.length) :
    (clear.run (tokens.take i)).2 = (tokens.take i).zipIdx.filterMap fun (token, j) ↦
      token.condition? (Since Token.isMark Token.isPlain tokens j) := by
  induction i with
  | zero => rfl
  | succ i ih =>
    have hstate := fst_run_take_eq_pending_iff (Nat.le_of_succ_le hi)
    rw [List.take_succ_eq_append_getElem hi, run_append, run_singleton, snd_step,
      ih (Nat.le_of_succ_le hi), List.zipIdx_append, List.filterMap_append,
      List.length_take_of_le (Nat.le_of_succ_le hi), Nat.zero_add, List.zipIdx_singleton,
      List.filterMap_cons, List.filterMap_nil]
    simp only [hstate]
    cases tokens[i].condition? (Since Token.isMark Token.isPlain tokens i) <;> rfl

/-! ## Marks in other places -/

/-- A mark behind a mark does nothing. -/
theorem run_mark_mark (state : NegationState) (tokens : List Token) :
    state.run (.negate :: .negate :: tokens) = state.run (.negate :: tokens) := rfl

/-- **A mark may change places with a literal** whose shape decides its operator. -/
theorem run_mark_literal (state : NegationState) {text : String}
    (h : (classify text.toList).isSome = true) (tokens : List Token) :
    state.run (.negate :: .literal text :: tokens) =
      state.run (.literal text :: .negate :: tokens) := by
  obtain ⟨op, hop⟩ := Option.isSome_iff_exists.1 h
  simp [run, step, hop]

end NegationState

/-! ## The conditions of a list -/

theorem buildConditions_append (ts us : List Token) :
    buildConditions (ts ++ us) =
      buildConditions ts ++ ((NegationState.clear.run ts).1.run us).2 :=
  congrArg Prod.snd (NegationState.clear.run_append ts us)

open NegationState in
/-- **Negation is folded over a list of tokens.**  There is one condition for each literal, with its
text and in its place.  The shape of the text decides the operator; where it decides none, the
literal is excluded when a mark stands before it and no plain literal in between.  A list that goes
on is folded on from the state that its first part leads to, which is told in the same way.  So a
mark may be repeated, dropped at the end, and moved past a literal that is not plain. -/
theorem negation_is_folded (ts : List Token) :
    (buildConditions ts).map (·.value) = ts.filterMap Token.text? ∧
    (buildConditions ts = ts.zipIdx.filterMap fun (token, i) ↦
      token.condition? (Since Token.isMark Token.isPlain ts i)) ∧
    (∀ us, buildConditions (ts ++ us) = buildConditions ts ++ ((clear.run ts).1.run us).2) ∧
    (clear.run ts).1 =
      (if Since Token.isMark Token.isPlain ts ts.length then pending else clear) ∧
    (∀ us, buildConditions (ts ++ .negate :: .negate :: us) =
      buildConditions (ts ++ .negate :: us)) ∧
    buildConditions (ts ++ [.negate]) = buildConditions ts ∧
    ∀ text us, (classify text.toList).isSome = true →
      buildConditions (ts ++ .negate :: .literal text :: us) =
        buildConditions (ts ++ .literal text :: .negate :: us) := by
  have hstate := fst_run_take_eq_pending_iff (Nat.le_refl ts.length)
  have hconditions := snd_run_take (Nat.le_refl ts.length)
  rw [List.take_length] at hstate hconditions
  refine ⟨map_value_run clear ts, hconditions, buildConditions_append ts, eq_ite_pending _ hstate,
    fun us ↦ ?_, ?_, fun text us h ↦ ?_⟩
  · rw [buildConditions_append, run_mark_mark, ← buildConditions_append]
  · rw [buildConditions_append]
    exact List.append_nil _
  · rw [buildConditions_append, run_mark_literal _ h, ← buildConditions_append]

/-- Behind a plain literal a mark is moved past a date, to the literal that it negates. -/
theorem negation_is_folded_past_date :
    (classify "2009-01-15".toList).isSome = true ∧
      buildConditions ([.literal "a"] ++ .negate :: .literal "2009-01-15" :: [.literal "b"]) =
        buildConditions ([.literal "a"] ++ .literal "2009-01-15" :: .negate :: [.literal "b"]) ∧
      buildConditions [.literal "a", .negate, .literal "2009-01-15", .literal "b"] =
        [⟨"a", .like⟩, ⟨"2009-01-15", .asOfDate⟩, ⟨"b", .not⟩] := by
  have h : (classify "2009-01-15".toList).isSome = true := by decide
  obtain ⟨-, -, -, -, -, -, hmove⟩ := negation_is_folded [.literal "a"]
  exact ⟨h, hmove _ _ h, by decide⟩

end SearchFilter
