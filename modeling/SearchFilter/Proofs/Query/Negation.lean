import SearchFilter.Proofs.Negation

/-!
# Which conditions are negated

A hyphen negates the next plain literal, which need not be that of its own lexeme: dates and
alternatives leave the negation waiting, and so do lexemes of which cleaning leaves nothing.

* `NegatedAt` and `conditionAt` say what the text of a lexeme gives, by what stands before it.
* `NegationState.run_take_eq_pending_iff` and `NegationState.run_take_conditions`: the state and the
  conditions behind the first lexemes of a list.
* `parse_negation`: the conditions of a query from its lexemes, each with the operator it gets.
-/

set_option autoImplicit false

namespace SearchFilter

/-! ## The texts of lexemes -/

/-- Whether a text starts with a hyphen. -/
def startsWithHyphen (raw : List Char) : Bool :=
  raw.head? == some '-'

/-- Whether the literal of the text at `i` is negated when it is plain: by a hyphen at the start of
this text, or of one before it from which on no literal is plain. -/
def NegatedAt (raws : List (List Char)) (i : Nat) : Prop :=
  ∃ k ≤ i, raws[k]?.any startsWithHyphen = true ∧
    ∀ j, k ≤ j → j < i → raws[j]?.any isPlain = false

instance (raws : List (List Char)) (i : Nat) : Decidable (NegatedAt raws i) :=
  inferInstanceAs (Decidable (∃ k, k ≤ i ∧ _))

theorem negatedAt_iff {raws : List (List Char)} {i : Nat} : NegatedAt raws i ↔
    raws[i]?.any startsWithHyphen = true ∨ Since startsWithHyphen isPlain raws i := by
  constructor
  · rintro ⟨k, hk, hset, hreset⟩
    rcases Nat.eq_or_lt_of_le hk with rfl | hk
    · exact .inl hset
    · exact .inr ⟨k, hk, hset, hreset⟩
  · rintro (hset | ⟨k, hk, hset, hreset⟩)
    · exact ⟨i, Nat.le_refl i, hset, fun j hij hji ↦ absurd hji (Nat.not_lt.2 hij)⟩
    · exact ⟨k, Nat.le_of_lt hk, hset, hreset⟩

/-- The condition that the text at `i` gives, if cleaning leaves something of it: a literal that has
no shape gets its operator from negation. -/
def conditionAt (raws : List (List Char)) (i : Nat) (raw : List Char) : Option Condition :=
  if clean raw = [] then none
  else some ⟨String.ofList (clean raw),
    (classify (clean raw)).getD (if NegatedAt raws i then .not else .like)⟩

theorem Category.eq_of_opensWith_hyphen {category : Category}
    (h : category.opensWith '-' = true) : category = .word ∨ category = .string := by
  cases category with
  | word => exact .inl rfl
  | string => exact .inr rfl
  | comparedDate comparison => cases comparison <;> exact absurd h (by decide)
  | _ => exact absurd h (by decide +kernel)

/-- A lexeme starts with a hyphen when it is negated, and only then. -/
theorem Lexeme.startsWithHyphen_chars {l : Lexeme} (h : l.IsWellFormed) :
    startsWithHyphen l.chars = l.isNegated := by
  have hopen : startsWithHyphen l.chars = true → l.category = .word ∨ l.category = .string := by
    obtain ⟨c, cs, hcs, hc⟩ := l.exists_cons h
    rw [hcs, startsWithHyphen, List.head?_cons, beq_iff_eq, Option.some.injEq]
    rintro rfl
    exact Category.eq_of_opensWith_hyphen hc
  cases l with
  | word negated w =>
    cases negated with
    | true => rfl
    | false =>
      refine Bool.eq_false_iff.2 fun hhyphen ↦ ?_
      refine IsWord.head?_append_ne_hyphen h [] ?_
      simpa [startsWithHyphen, chars, dash] using hhyphen
  | phrase negated content => cases negated <;> rfl
  | _ => exact Bool.eq_false_iff.2 fun hhyphen ↦ by simpa [category] using hopen hhyphen

/-! ## The lexemes of a list, one after another -/

namespace NegationState

section Take

variable {ls : List Lexeme}

/-- **The state behind the first lexemes of a list**: a negation waits when one was set and not
reset. -/
theorem run_take_eq_pending_iff (hwf : ∀ l ∈ ls, l.IsWellFormed) {i : Nat} (hi : i ≤ ls.length) :
    (clear.run ((ls.take i).flatMap (·.tokens))).1 = pending ↔
      Since startsWithHyphen isPlain (ls.map (·.chars)) i := by
  induction i with
  | zero => simp [run, not_since_zero]
  | succ i ih =>
    have hhyphen := Lexeme.startsWithHyphen_chars (hwf ls[i] (List.getElem_mem hi))
    rw [List.take_succ_eq_append_getElem hi, List.flatMap_append, List.flatMap_singleton,
      run_append, run_tokens, since_succ, List.getElem?_map, List.getElem?_eq_getElem hi,
      Option.map_some, Option.any_some, Option.any_some, hhyphen, ← ih (Nat.le_of_succ_le hi)]
    cases isPlain ls[i].chars <;> cases ls[i].isNegated <;> simp

/-- **The conditions of the first lexemes of a list**, each by its own text and what stands before
it. -/
theorem run_take_conditions (hwf : ∀ l ∈ ls, l.IsWellFormed) {i : Nat} (hi : i ≤ ls.length) :
    (clear.run ((ls.take i).flatMap (·.tokens))).2 =
      ((ls.take i).map (·.chars)).zipIdx.filterMap fun (raw, j) ↦
        conditionAt (ls.map (·.chars)) j raw := by
  induction i with
  | zero => rfl
  | succ i ih =>
    have hhyphen := Lexeme.startsWithHyphen_chars (hwf ls[i] (List.getElem_mem hi))
    have hstate := run_take_eq_pending_iff hwf (Nat.le_of_succ_le hi)
    have hnegated : NegatedAt (ls.map (·.chars)) i ↔ ls[i].isNegated = true ∨
        (clear.run ((ls.take i).flatMap (·.tokens))).1 = pending := by
      rw [negatedAt_iff, hstate, List.getElem?_map, List.getElem?_eq_getElem hi, Option.map_some,
        Option.any_some, hhyphen]
    have hlength : ((ls.take i).map (·.chars)).length = i := by
      rw [List.length_map, List.length_take_of_le (Nat.le_of_succ_le hi)]
    rw [List.take_succ_eq_append_getElem hi, List.flatMap_append, List.flatMap_singleton,
      run_append, run_tokens, ih (Nat.le_of_succ_le hi), List.map_append, List.zipIdx_append,
      List.filterMap_append, hlength, Nat.zero_add, List.map_singleton, List.zipIdx_singleton,
      List.filterMap_cons, List.filterMap_nil, plainOperator_eq_ite]
    simp only [conditionAt, hnegated]
    by_cases hempty : clean ls[i].chars = []
    · simp [hempty]
    · cases ls[i].isNegated <;> simp [hempty]

end Take

end NegationState

/-! ## The conditions of a query -/

/-- The texts of the lexemes of a query. -/
def Query.raws (q : String) : List (List Char) :=
  (scan q.toList).map (·.lexeme.chars)

/-- **What negation means**: a query has one condition for each lexeme of which cleaning leaves
something, in order.  Its operator is that of the shape of what is left.  A literal without a shape
is negated when its lexeme starts with a hyphen, or when one before it does and no literal from
there up to it is plain. -/
theorem parse_negation {q : String} (h : q.length ≤ Query.maxLength) :
    (Query.parse (some q)).value = (Query.raws q).zipIdx.filterMap fun (raw, i) ↦
      conditionAt (Query.raws q) i raw := by
  have hwf : ∀ l ∈ (scan q.toList).map (·.lexeme), l.IsWellFormed := by
    intro l hl
    obtain ⟨o, ho, rfl⟩ := List.mem_map.1 hl
    exact (walk_scan q.toList).mem_isWellFormed ho
  have hraws : Query.raws q = ((scan q.toList).map (·.lexeme)).map (·.chars) := by
    rw [Query.raws, List.map_map]
    rfl
  have hconditions := NegationState.run_take_conditions hwf (Nat.le_refl _)
  rw [List.take_length, List.flatMap_map] at hconditions
  rw [Query.value_parse_of_length_le h, buildConditions, tokenize, hraws, hconditions]

/-- The hyphen of the empty phrase goes past a date to `a`, and no further. -/
theorem parse_negation_past_date :
    "-\"\" 20090115 a b".length ≤ Query.maxLength ∧
      (Query.parse (some "-\"\" 20090115 a b")).value =
        [⟨"20090115", .asOfDate⟩, ⟨"a", .not⟩, ⟨"b", .like⟩] := by
  have h : "-\"\" 20090115 a b".length ≤ Query.maxLength := by decide
  refine ⟨h, (parse_negation h).trans ?_⟩
  decide +kernel

end SearchFilter
