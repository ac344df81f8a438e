import Mathlib.Data.List.Flatten
import SearchFilter.Query
import SearchFilter.Proofs.Classification
import SearchFilter.Proofs.Lexeme.Walk

/-!
# From lexemes to conditions

Each lexeme of which cleaning leaves something gives one condition, and its value is what is left.
Only its operator depends on what stands before it, and of that only on the negation that waits.

* `Query.value_parse` says what a query is cut to.
* `map_value_buildConditions` lists the values of the conditions of a query,
  `Query.forall_mem_value_parse` tells what holds of all of them.
* `NegationState.run_tokens` says what one lexeme gives, `NegationState.run_tokens_of_classify` and
  `NegationState.run_tokens_of_classify_eq_none` what one with a shape and one without gives.
* `buildConditions_append_literal` shows the condition of one literal among the others.
-/

set_option autoImplicit false

namespace SearchFilter

/-! ## The query that is read -/

theorem Query.value_parse (q : String) :
    (Query.parse (some q)).value = buildConditions (tokenize (q.toList.take maxLength)) := by
  have hcut : (truncate q).value.toList = q.toList.take maxLength := by
    unfold truncate
    split
    · rw [Log.Logged.value_bind, Log.Logged.value_pure, String.toList_ofList]
    · next h =>
      rw [Log.Logged.value_pure, List.take_of_length_le]
      rw [String.length_toList]
      omega
  rw [← hcut, parse, Log.Logged.value_bind, Log.Logged.value_bind, Log.Logged.value_pure]

theorem Query.value_parse_of_length_le {q : String} (h : q.length ≤ maxLength) :
    (Query.parse (some q)).value = buildConditions (tokenize q.toList) := by
  rw [value_parse, List.take_of_length_le (by rwa [String.length_toList])]

/-! ## The values -/

/-- The text of a literal. -/
def Token.text? : Token → Option String
  | negate => none
  | literal text => some text

theorem NegationState.map_value_run (state : NegationState) (tokens : List Token) :
    (state.run tokens).2.map (·.value) = tokens.filterMap Token.text? := by
  induction tokens generalizing state with
  | nil => rfl
  | cons token tokens ih =>
    rw [run, List.map_append, ih]
    cases token with
    | negate => rfl
    | literal text =>
      rw [step]
      cases classify text.toList <;> rfl

/-- The literal of a lexeme is what cleaning leaves of it, if anything. -/
theorem Lexeme.text?_tokens (l : Lexeme) :
    (l.tokens.filterMap Token.text?).map String.toList =
      [clean l.chars].filter (!·.isEmpty) := by
  have hmark : (if l.isNegated then [Token.negate] else []).filterMap Token.text? = [] := by
    split <;> rfl
  rw [tokens, List.filterMap_append, hmark, List.nil_append]
  cases clean l.chars with
  | nil => rfl
  | cons c cs => simp [Token.text?, String.toList_ofList]

/-- **There is one condition for each lexeme of which something is left**, in the order of the
lexemes. -/
theorem map_value_buildConditions (cs : List Char) :
    (buildConditions (tokenize cs)).map (·.value.toList) =
      ((scan cs).map fun o ↦ clean o.lexeme.chars).filter (!·.isEmpty) := by
  have hvalues : (buildConditions (tokenize cs)).map (·.value.toList) =
      ((tokenize cs).filterMap Token.text?).map String.toList := by
    rw [← NegationState.map_value_run .clear, List.map_map]
    rfl
  rw [hvalues, tokenize]
  induction scan cs with
  | nil => rfl
  | cons o os ih =>
    rw [List.flatMap_cons, List.filterMap_append, List.map_append, ih, Lexeme.text?_tokens,
      List.map_cons, ← List.filter_append, List.singleton_append]

/-- What holds of the value of every condition of a query holds of what is left of its lexemes. -/
theorem Query.forall_mem_value_parse {q : String} {p : List Char → Prop} :
    (∀ condition ∈ (parse (some q)).value, p condition.value.toList) ↔
      ∀ o ∈ scan (q.toList.take maxLength), clean o.lexeme.chars ≠ [] →
        p (clean o.lexeme.chars) := by
  rw [value_parse, ← List.forall_mem_map (f := fun condition : Condition ↦ condition.value.toList),
    map_value_buildConditions]
  simp only [List.mem_filter, List.mem_map, Bool.not_eq_true', List.isEmpty_eq_false_iff, ne_eq]
  constructor
  · exact fun h o ho hne ↦ h _ ⟨⟨o, ho, rfl⟩, hne⟩
  · rintro h _ ⟨⟨o, ho, rfl⟩, hne⟩
    exact h o ho hne

/-! ## One condition among the others -/

theorem Lexeme.tokens_of_clean_ne_nil {l : Lexeme} (h : clean l.chars ≠ []) :
    l.tokens = (if l.isNegated then [.negate] else []) ++
      [.literal (String.ofList (clean l.chars))] := by
  obtain ⟨c, cs, hcs⟩ := List.exists_cons_of_ne_nil h
  rw [tokens, hcs]

/-- Whether cleaning leaves a plain literal of a text: something, and of no shape. -/
def isPlain (raw : List Char) : Bool :=
  !(clean raw).isEmpty && (classify (clean raw)).isNone

namespace NegationState

/-- The operator that a literal gets: that of its shape, else by the negation that waits. -/
def operatorFor (state : NegationState) (text : String) : Operator :=
  (classify text.toList).getD state.plainOperator

theorem step_literal (state : NegationState) (text : String) :
    state.step (.literal text) =
      (if (classify text.toList).isSome then state else clear,
        some ⟨text, state.operatorFor text⟩) := by
  rw [step, operatorFor]
  cases classify text.toList <;> rfl

/-- The operator of a condition that names dates is that of the shape of its text. -/
theorem classify_of_mem_run {state : NegationState} {tokens : List Token} {condition : Condition}
    (h : condition ∈ (state.run tokens).2) (hdate : condition.isDate = true) :
    classify condition.value.toList = some condition.operator := by
  induction tokens generalizing state with
  | nil => exact absurd h List.not_mem_nil
  | cons token tokens ih =>
    rw [run, List.mem_append] at h
    rcases h with h | h
    · cases token with
      | negate => exact absurd h List.not_mem_nil
      | literal text =>
        rw [step_literal, Option.toList_some, List.mem_singleton] at h
        subst h
        rw [Condition.isDate, operatorFor] at hdate
        rw [operatorFor]
        cases hshape : classify text.toList with
        | some op => rfl
        | none =>
          -- a plain literal is liked or excluded, and names no date
          rw [hshape, Option.getD_none] at hdate
          cases state <;> cases hdate
    · exact ih h

/-- **One lexeme**: its hyphen sets the negation that waits, and its literal resets it if it is
plain. -/
theorem run_tokens (state : NegationState) (l : Lexeme) :
    state.run l.tokens =
      (if isPlain l.chars then clear else if l.isNegated then pending else state,
        if clean l.chars = [] then []
        else [⟨String.ofList (clean l.chars), (classify (clean l.chars)).getD
          (if l.isNegated then .not else state.plainOperator)⟩]) := by
  have hmark : state.run (if l.isNegated then [.negate] else []) =
      (if l.isNegated then pending else state, []) := by
    cases l.isNegated <;> rfl
  have hoperator : (if l.isNegated then pending else state : NegationState).plainOperator =
      if l.isNegated then .not else state.plainOperator := by
    cases l.isNegated <;> rfl
  by_cases hempty : clean l.chars = []
  · rw [Lexeme.tokens, hempty, List.append_nil, hmark, isPlain, hempty]
    rfl
  · rw [Lexeme.tokens_of_clean_ne_nil hempty, run_append, hmark, run, step_literal, operatorFor,
      String.toList_ofList, hoperator, isPlain, if_neg hempty]
    cases classify (clean l.chars) <;> simp [run, hempty]

/-- **A lexeme whose shape decides its operator** gives one condition and leaves the negation that
waits as it is. -/
theorem run_tokens_of_classify {l : Lexeme} {op : Operator} (hneg : l.isNegated = false)
    (hop : classify (clean l.chars) = some op) (state : NegationState) :
    state.run l.tokens = (state, [⟨String.ofList (clean l.chars), op⟩]) := by
  have hne : clean l.chars ≠ [] := by
    intro h
    have hnil : classify [] = none := by decide
    rw [h, hnil] at hop
    exact Option.some_ne_none op hop.symm
  simp [run_tokens, isPlain, hne, hneg, hop]

/-- **A lexeme whose shape decides nothing** gives one condition too, by its own hyphen when no
other negation waits, and none waits behind it. -/
theorem run_tokens_of_classify_eq_none {l : Lexeme} (hne : clean l.chars ≠ [])
    (hop : classify (clean l.chars) = none) :
    clear.run l.tokens =
      (clear, [⟨String.ofList (clean l.chars), if l.isNegated then .not else .like⟩]) := by
  simp [run_tokens, isPlain, hne, hop, plainOperator]

end NegationState

/-- The condition of a literal stands behind the conditions of the tokens before it. -/
theorem buildConditions_append_literal (ts us : List Token) (text : String) :
    buildConditions (ts ++ .literal text :: us) =
      buildConditions ts ++ ⟨text, (NegationState.clear.run ts).1.operatorFor text⟩ ::
        (((NegationState.clear.run ts).1.step (.literal text)).1.run us).2 := by
  rw [buildConditions, NegationState.run_append, NegationState.run, NegationState.step_literal]
  rfl

end SearchFilter
