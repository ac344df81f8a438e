/-!
# Untyped values

What a document holds before anyone asks what it should be: nothing, truth values, numbers, texts,
lists and mappings from keys to values.

* `Value` is such a value; `Value.isScalar` tells those without members, and `Value.kind` names the kind
  of a value in messages.
* `Entries` are the keys of a mapping with their values, in order; `Entries.get?` looks a key up,
  `Entries.put` writes one, and `Entries.get?_put` says what is found afterwards.
-/

set_option autoImplicit false

namespace SearchFilter

/-- A value of unknown kind. -/
inductive Value where
  | null
  | bool (b : Bool)
  | int (n : Int)
  /-- A number with a fraction, as it was written. -/
  | float (text : String)
  /-- A value of a kind that nothing asks for, such as a date or a set; some of them can be empty. -/
  | other (isEmpty : Bool)
  | string (s : String)
  | list (items : List Value)
  /-- Keys with their values; no key occurs twice. -/
  | mapping (entries : List (String × Value))
deriving Repr, Inhabited

namespace Value

/-- The kind of a value, as messages call it. -/
def kind : Value → String
  | null => "NoneType"
  | bool _ => "bool"
  | int _ => "int"
  | float _ => "float"
  | other _ => "object"
  | string _ => "str"
  | list _ => "list"
  | mapping _ => "dict"

/-- Whether a value has no members. -/
def isScalar : Value → Bool
  | list _ | mapping _ => false
  | _ => true

end Value

/-- Keys with their values, in the order in which the keys were first written. -/
abbrev Entries := List (String × Value)

namespace Entries

/-- The value of a key. -/
def get? (entries : Entries) (key : String) : Option Value :=
  entries.lookup key

/-- The entries with a new value for a key.  A known key keeps its place, a new one comes last. -/
def put (key : String) (value : Value) : Entries → Entries
  | [] => [(key, value)]
  | (k, v) :: entries => if k = key then (k, value) :: entries else (k, v) :: put key value entries

theorem get?_put (key key' : String) (value : Value) (entries : Entries) :
    (put key value entries).get? key' = if key' = key then some value else entries.get? key' := by
  induction entries with
  | nil =>
    by_cases h : key' = key <;> simp [put, get?, h]
  | cons e entries ih =>
    obtain ⟨k, v⟩ := e
    unfold get? at ih ⊢
    rw [put]
    split
    next hk =>
      subst hk
      by_cases h : key' = k
      · simp [h]
      · simp [List.lookup_cons, h, beq_false_of_ne h]
    next hk =>
      rw [List.lookup_cons, List.lookup_cons, ih]
      by_cases h : key' = key
      · subst h
        simp [beq_false_of_ne (Ne.symm hk)]
      · simp [h]

end Entries
end SearchFilter
