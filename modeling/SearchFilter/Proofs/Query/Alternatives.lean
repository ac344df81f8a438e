import SearchFilter.Proofs.Conditions

/-!
# The alternatives of a query

A pair of alternatives is recognised twice, like a date, but by two shapes that do not agree.  Where
it stands in a query any blanks may surround `OR`; in the text that cleaning leaves, spaces must,
and something must be left on either side of them.

* `operator_of_orPair`: when the condition of a pair has the operator of alternatives.
* `orPair_between_tabs`: a pair whose condition has another operator.
-/

set_option autoImplicit false

namespace SearchFilter

theorem NegationState.plainOperator_eq (state : NegationState) :
    state.plainOperator = .like ∨ state.plainOperator = .not := by
  cases state
  · exact .inl rfl
  · exact .inr rfl

/-- A text with an `R` in it is a pair of alternatives or a plain literal. -/
theorem NegationState.operatorFor_of_mem (state : NegationState) {cs : List Char} (h : 'R' ∈ cs) :
    (state.operatorFor (String.ofList cs) = .or ↔ isAlternative cs = true) ∧
      (state.operatorFor (String.ofList cs) ≠ .or →
        state.operatorFor (String.ofList cs) = state.plainOperator) := by
  rw [operatorFor, String.toList_ofList, ← classify_eq_or_iff]
  cases hclass : classify cs with
  | none => rcases state.plainOperator_eq with hp | hp <;> simp [hp]
  | some op => simp [eq_or_of_classify hclass h]

/-- **The operator of a pair of alternatives.**  The condition of a pair is one of alternatives just
when its `OR` stands between spaces with more than that on either side, or when one of the sides
holds another ` OR `.  If not it is that of a plain literal. -/
theorem operator_of_orPair {q : String} (hq : q.length ≤ Query.maxLength)
    {before after : List Occurrence} {start : Nat} {left right : Term} {gap gap' : List Char}
    (hscan : scan q.toList = before ++ ⟨start, .orPair left gap gap' right⟩ :: after) :
    ∃ op later,
      (Query.parse (some q)).value = buildConditions (before.flatMap (·.lexeme.tokens)) ++
        ⟨String.ofList (clean (Lexeme.orPair left gap gap' right).chars), op⟩ :: later ∧
      (op = .or ↔
        (gap.getLast? = some ' ' ∧ gap'.head? = some ' ' ∧
          clean (left.chars ++ gap) ≠ [' '] ∧ clean (gap' ++ right.chars) ≠ [' ']) ∨
        (∃ x y, x ≠ [] ∧ clean (left.chars ++ gap) = x ++ " OR ".toList ++ y) ∨
        ∃ x y, y ≠ [] ∧ clean (gap' ++ right.chars) = x ++ " OR ".toList ++ y) ∧
      (op ≠ .or → op = .like ∨ op = .not) := by
  have hmem : (⟨start, .orPair left gap gap' right⟩ : Occurrence) ∈ scan q.toList := by
    rw [hscan]
    exact List.mem_append_right _ List.mem_cons_self
  obtain ⟨-, -, hgap, hgap'⟩ := (walk_scan _).mem_isWellFormed hmem
  have hclean : clean (Lexeme.orPair left gap gap' right).chars =
      clean (left.chars ++ gap) ++ 'O' :: 'R' :: clean (gap' ++ right.chars) :=
    clean_chars_orPair hgap'
  have hne : clean (Lexeme.orPair left gap gap' right).chars ≠ [] := by simp [hclean]
  have hop := fun state : NegationState ↦ state.operatorFor_of_mem
    (show 'R' ∈ clean (Lexeme.orPair left gap gap' right).chars by simp [hclean])
  rw [Query.value_parse_of_length_le hq, tokenize, hscan, List.flatMap_append, List.flatMap_cons,
    Lexeme.tokens_of_clean_ne_nil hne]
  refine ⟨_, _, buildConditions_append_literal _ _ _, ?_, fun hne ↦ ?_⟩
  · have hor : " OR ".toList = [' ', 'O', 'R', ' '] := rfl
    rw [(hop _).1, hclean, isAlternative_append_iff, between_spaces_iff hgap hgap', hor]
  · rw [(hop _).2 hne]
    exact NegationState.plainOperator_eq _

/-- Nothing but a space is left of the first side, but the second side has an `OR` of its own. -/
theorem operator_of_orPair_phrase :
    ∃ op later, (Query.parse (some "x \"-\" OR \"b OR c\"")).value =
      buildConditions [.literal "x"] ++ ⟨" OR b OR c", op⟩ :: later ∧ op = .or := by
  have hscan : scan "x \"-\" OR \"b OR c\"".toList =
      [⟨0, .word false ['x']⟩] ++
        ⟨2, .orPair (.quoted ['-']) [' '] [' '] (.quoted "b OR c".toList)⟩ :: [] := by
    decide +kernel
  obtain ⟨op, later, hvalue, hop, -⟩ := operator_of_orPair (by decide) hscan
  exact ⟨op, later, hvalue, hop.2 (.inr (.inr ⟨[' ', 'b'], ['c'], by decide, by decide⟩))⟩

/-- Tabs may surround the `OR` of a pair, but do not make alternatives of what is left of it. -/
theorem orPair_between_tabs :
    (scan "a\tOR\tb".toList).map (·.lexeme) = [.orPair (.word ['a']) ['\t'] ['\t'] (.word ['b'])] ∧
      (Query.parse (some "a\tOR\tb")).value = [⟨"a\tOR\tb", .like⟩] := by
  decide +kernel

end SearchFilter
