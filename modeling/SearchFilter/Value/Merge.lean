import SearchFilter.Value

/-!
# Merging mappings

One mapping is laid over another: a key of the upper one wins, except that where both hold mappings
these are merged in turn.  Lists are not joined.

* `Entries.merge` merges, `Value.over` lays one value over another.
* `merge_nil`: nothing laid over a mapping leaves it as it was.
-/

set_option autoImplicit false

namespace SearchFilter

mutual

/-- A value laid over what was there before, if anything was. -/
def Value.over (before : Option Value) : Value → Value
  | .mapping upper =>
    match before with
    | some (.mapping base) => .mapping (Entries.merge base upper)
    | _ => .mapping upper
  | value => value
termination_by structural value => value

/-- The entries with one key laid over them. -/
def Entries.mergeEntry (base : Entries) : String × Value → Entries
  | (key, value) => base.put key (value.over (base.get? key))
termination_by structural entry => entry

/-- **Entries laid over a base.** -/
def Entries.merge (base : Entries) : List (String × Value) → Entries
  | [] => base
  | entry :: upper => Entries.merge (Entries.mergeEntry base entry) upper
termination_by structural upper => upper

end

@[simp]
theorem Entries.merge_nil (base : Entries) : Entries.merge base [] = base := rfl

end SearchFilter
