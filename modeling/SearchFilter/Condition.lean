import SearchFilter.Operator

/-!
# Filter conditions

One condition that a query puts on the data.  A condition names no field: whoever applies it
decides where its value is looked for.

* `Condition` pairs the text of a query's token with an operator.
* `Condition.ofPair` reads the operator by its name.
-/

set_option autoImplicit false

namespace SearchFilter

/-- One condition of a filter. -/
structure Condition where
  /-- The token text, cleaned of quoting and negation. -/
  value : String
  operator : Operator
deriving DecidableEq, Repr

namespace Condition

/-- Whether the condition excludes its value. -/
def isNegated (c : Condition) : Bool := c.operator == .not

/-- Whether the value names dates. -/
def isDate (c : Condition) : Bool := c.operator.isDate

/-- The value and the name of the operator. -/
def toPair (c : Condition) : String × String := (c.value, c.operator.name)

/-- Why a condition cannot be made. -/
inductive Error where
  | unknownOperator (name : String)
deriving DecidableEq, Repr

/-- The text of an error. -/
def Error.message : Error → String
  | unknownOperator name => "Unknown operator: " ++ name

/-- The condition with this value and an operator of this name. -/
def ofPair (value operator : String) : Except Error Condition :=
  match Operator.ofName? operator with
  | some op => .ok ⟨value, op⟩
  | none => .error (.unknownOperator operator)

@[simp]
theorem ofPair_toPair (c : Condition) : ofPair c.toPair.1 c.toPair.2 = .ok c := by
  simp [ofPair, toPair]

end Condition
end SearchFilter
