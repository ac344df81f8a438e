import SearchFilter.Lexeme.Take

/-!
# The lexemes of a query

A query is walked from left to right.  Where a lexeme starts it is taken whole, and the walk goes on
behind it; a character that starts none is passed over.

* `Occurrence` is a lexeme with the place where it starts.
* `scan` lists the lexemes of a query.
* `scanFrom_skip` describes the walk through a lexeme that was taken.
-/

set_option autoImplicit false

namespace SearchFilter

/-- A lexeme and the number of characters before it. -/
structure Occurrence where
  start : Nat
  lexeme : Lexeme
deriving DecidableEq, Repr

/-- The place behind the lexeme. -/
def Occurrence.stop (o : Occurrence) : Nat :=
  o.start + o.lexeme.chars.length

/-- The lexemes in the rest of a query.  `inside` counts the characters that still belong to the
last lexeme, `prev` is the character before the rest and `start` the number of characters before
it. -/
def scanFrom (inside : Nat) (prev : Option Char) (start : Nat) : List Char → List Occurrence
  | [] => []
  | c :: cs =>
    match inside with
    | inside + 1 => scanFrom inside (some c) (start + 1) cs
    | 0 =>
      match Lexeme.take? prev (c :: cs) with
      | some (lexeme, _) =>
        ⟨start, lexeme⟩ :: scanFrom (lexeme.chars.length - 1) (some c) (start + 1) cs
      | none => scanFrom 0 (some c) (start + 1) cs

/-- **The lexemes of a query**, in the order in which they stand. -/
def scan (cs : List Char) : List Occurrence :=
  scanFrom 0 none 0 cs

/-- Behind the characters that belong to the last lexeme the walk goes on as from there. -/
theorem scanFrom_skip (prev : Option Char) (start : Nat) (taken cs : List Char) :
    scanFrom taken.length prev start (taken ++ cs) =
      scanFrom 0 (taken.getLast?.or prev) (start + taken.length) cs := by
  induction taken generalizing prev start with
  | nil => simp
  | cons c taken ih =>
    rw [List.length_cons, List.cons_append, scanFrom, ih, Nat.add_right_comm, Nat.add_assoc]
    cases taken with
    | nil => simp
    | cons d ds =>
      simp [List.getLast?_eq_some_getLast (List.cons_ne_nil d ds)]

end SearchFilter
