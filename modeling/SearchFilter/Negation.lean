import SearchFilter.Condition
import SearchFilter.Lexeme.Take
import SearchFilter.Token

/-!
# From tokens to conditions

A literal is classified anew by its shape alone, and the marks of negation among the tokens are folded
into the operators of the conditions.  A mark waits for the next plain literal; dates and alternatives
neither use it nor drop it.

* `Category.describes` says whether a whole text has the shape of a category.
* `classify` is the operator that the shape decides; a plain word or phrase has none.
* `NegationState.step` takes one token.
* `buildConditions` takes a list of tokens.
* `NegationState.run_append` runs a list in two parts.
-/

set_option autoImplicit false

namespace SearchFilter

/-! ## The shape of a text -/

/-- Whether a text starts with `OR` between two spaces and goes on behind them. -/
def opensAlternative : List Char → Bool
  | ' ' :: 'O' :: 'R' :: ' ' :: _ :: _ => true
  | _ => false

/-- Whether `OR` stands between two spaces somewhere in a text, with characters before and behind.
Quotes are gone from a cleaned text, so nothing is asked of the two sides but that they are
there. -/
def isAlternative : List Char → Bool
  | [] => false
  | _ :: cs => opensAlternative cs || isAlternative cs

/-- Whether a whole text has the shape of a category. -/
def Category.describes (category : Category) (cs : List Char) : Bool :=
  match category with
  | .orPair => isAlternative cs
  | _ => (category.take? none cs).any (·.2.isEmpty)

/-- The categories that decide an operator, in the order in which they are tried. -/
def Category.classifying : List Category :=
  [orPair, betweenDates, comparedDate .atLeast, comparedDate .atMost, comparedDate .moreThan,
    comparedDate .lessThan, asOfDate]

/-- **The operator that the shape of a text decides**, if it decides one. -/
def classify (cs : List Char) : Option Operator :=
  (Category.classifying.find? (·.describes cs)).bind (·.operator?)

/-! ## Folding negation -/

/-- Whether a mark of negation is waiting. -/
inductive NegationState where
  | clear
  | pending
deriving DecidableEq, Repr

namespace NegationState

/-- The operator of a plain literal. -/
def plainOperator : NegationState → Operator
  | clear => .like
  | pending => .not

/-- One token: the next state, and the condition that the token gives. -/
def step (state : NegationState) : Token → NegationState × Option Condition
  | .negate => (pending, none)
  | .literal text =>
    match classify text.toList with
    | some operator => (state, some ⟨text, operator⟩)
    | none => (clear, some ⟨text, state.plainOperator⟩)

/-- A list of tokens: the last state, and the conditions in order. -/
def run (state : NegationState) : List Token → NegationState × List Condition
  | [] => (state, [])
  | token :: tokens =>
    let (next, condition) := state.step token
    let (last, conditions) := next.run tokens
    (last, condition.toList ++ conditions)

/-- The states that are reached one after another, each with the condition given on the way. -/
def trace (state : NegationState) : List Token → List (NegationState × Option Condition)
  | [] => []
  | token :: tokens => state.step token :: (state.step token).1.trace tokens

theorem run_append (state : NegationState) (ts us : List Token) :
    state.run (ts ++ us) =
      (((state.run ts).1.run us).1, (state.run ts).2 ++ ((state.run ts).1.run us).2) := by
  induction ts generalizing state with
  | nil => rfl
  | cons t ts ih => simp [run, ih]

end NegationState

/-- **The conditions that a list of tokens stands for.** -/
def buildConditions (tokens : List Token) : List Condition :=
  (NegationState.clear.run tokens).2

end SearchFilter
