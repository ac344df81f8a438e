/-!
# Operators of filter conditions

What a condition asks of the data it is applied to.

* `Operator` has the nine operators, `Operator.name` their names in reports, `Operator.ofName?` reads
  a name back.
* `Operator.isDate` holds of the operators whose value names dates.
-/

set_option autoImplicit false

namespace SearchFilter

/-- The ways of comparing with a date. -/
inductive Comparison where
  | atLeast
  | atMost
  | moreThan
  | lessThan
deriving DecidableEq, Repr

namespace Comparison

/-- All comparisons; of two signs that begin alike, the longer comes first. -/
def all : List Comparison := [atLeast, atMost, moreThan, lessThan]

/-- The sign in front of the date. -/
def sign : Comparison → List Char
  | atLeast => ['>', '=']
  | atMost => ['<', '=']
  | moreThan => ['>']
  | lessThan => ['<']

end Comparison

/-- What a condition asks for. -/
inductive Operator where
  /-- The value occurs. -/
  | like
  /-- The value does not occur. -/
  | not
  /-- One of two terms occurs. -/
  | or
  /-- Between two dates. -/
  | betweenDates
  /-- On the stated side of a date. -/
  | compared (comparison : Comparison)
  /-- On a date. -/
  | asOfDate
deriving DecidableEq, Repr

namespace Operator

/-- All operators. -/
def all : List Operator :=
  [like, not, or, betweenDates, compared .moreThan, compared .lessThan, compared .atLeast,
    compared .atMost, asOfDate]

/-- The name of an operator in reports. -/
def name : Operator → String
  | like => "like"
  | not => "not"
  | or => "or"
  | betweenDates => "between_dates"
  | compared .moreThan => "greater_than_date"
  | compared .lessThan => "less_than_date"
  | compared .atLeast => "greater_than_or_equal_to_date"
  | compared .atMost => "less_than_or_equal_to_date"
  | asOfDate => "as_of_date"

/-- The operator of a name. -/
def ofName? (name : String) : Option Operator :=
  all.find? (·.name == name)

/-- Whether the value of a condition with this operator names dates. -/
def isDate : Operator → Bool
  | like | not | or => false
  | betweenDates | compared _ | asOfDate => true

theorem mem_all (op : Operator) : op ∈ all := by
  rcases op with _ | _ | _ | _ | c | _
  case compared => cases c <;> decide
  all_goals decide

@[simp]
theorem ofName?_name (op : Operator) : ofName? op.name = some op := by
  rcases op with _ | _ | _ | _ | c | _
  case compared => cases c <;> decide
  all_goals decide

/-- No two operators have one name. -/
theorem name_injective {op op' : Operator} (h : op.name = op'.name) : op = op' := by
  have hsome := ofName?_name op
  rw [h, ofName?_name] at hsome
  exact (Option.some.inj hsome).symm

end Operator
end SearchFilter
