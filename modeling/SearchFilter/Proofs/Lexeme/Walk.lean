import SearchFilter.Lexeme.Scan
import SearchFilter.Proofs.Lexeme.Take

/-!
# The walk through a query

`scanFrom` counts characters.  What it does is simpler to say as a relation: where a lexeme stands
it is taken whole, any other character is passed over.  A statement about all queries is then an
induction on the walk.

* `Walk prev start cs os` says that the walk through `cs` meets `os`.
* `walk_iff` says that it meets what `scanFrom` lists, and nothing else.
* `Walk.mem_isWellFormed`, `Walk.chars_sublist` and `Walk.filter_isWordChar` are what every walk has
  in common.
-/

set_option autoImplicit false

namespace SearchFilter

open Unicode

/-- The walk through a text behind the character `prev`, with `start` characters before the text,
and the lexemes that it meets. -/
inductive Walk : Option Char → Nat → List Char → List Occurrence → Prop
  /-- At the end nothing is left to meet. -/
  | done {prev : Option Char} {start : Nat} : Walk prev start [] []
  /-- A character that starts no lexeme is passed over. -/
  | pass {prev : Option Char} {start : Nat} {c : Char} {cs : List Char} {os : List Occurrence}
      (hc : Lexeme.take? prev (c :: cs) = none) (hw : Walk (some c) (start + 1) cs os) :
      Walk prev start (c :: cs) os
  /-- A lexeme is taken whole. -/
  | take {prev : Option Char} {start : Nat} {l : Lexeme} {rest : List Char} {os : List Occurrence}
      (hl : Lexeme.take? prev (l.chars ++ rest) = some (l, rest))
      (hw : Walk l.chars.getLast? (start + l.chars.length) rest os) :
      Walk prev start (l.chars ++ rest) (⟨start, l⟩ :: os)

/-! ## The walk and the scan -/

theorem scanFrom_pass {prev : Option Char} {c : Char} {cs : List Char}
    (h : Lexeme.take? prev (c :: cs) = none) (start : Nat) :
    scanFrom 0 prev start (c :: cs) = scanFrom 0 (some c) (start + 1) cs := by
  rw [scanFrom, h]

theorem scanFrom_take {prev : Option Char} {l : Lexeme} {rest : List Char}
    (h : Lexeme.take? prev (l.chars ++ rest) = some (l, rest)) (start : Nat) :
    scanFrom 0 prev start (l.chars ++ rest) =
      ⟨start, l⟩ :: scanFrom 0 l.chars.getLast? (start + l.chars.length) rest := by
  obtain ⟨-, hwf, -, -⟩ := Lexeme.of_take?_eq_some h
  obtain ⟨c, taken, hchars⟩ := List.exists_cons_of_ne_nil (Lexeme.chars_ne_nil hwf)
  have hlast : taken.getLast?.or (some c) = (c :: taken).getLast? := by
    rw [List.getLast?_cons]
    cases taken.getLast? <;> rfl
  rw [hchars, List.cons_append] at h ⊢
  rw [scanFrom, h]
  simp only [hchars, List.length_cons, Nat.add_sub_cancel, scanFrom_skip, hlast]
  rw [Nat.add_assoc, Nat.add_comm 1]

theorem walk_scanFrom (prev : Option Char) (start : Nat) (cs : List Char) :
    Walk prev start cs (scanFrom 0 prev start cs) := by
  -- a lexeme leaves a rest that is shorter, but no sublist of one step
  induction hn : cs.length using Nat.strongRecOn generalizing prev start cs with
  | ind n ih =>
    subst hn
    cases cs with
    | nil => exact .done
    | cons c cs =>
      cases htake : Lexeme.take? prev (c :: cs) with
      | none =>
        rw [scanFrom_pass htake]
        exact .pass htake (ih _ (by simp) _ _ _ rfl)
      | some taken =>
        obtain ⟨l, rest⟩ := taken
        obtain ⟨-, hwf, -, hcs⟩ := Lexeme.of_take?_eq_some htake
        have hpos := List.length_pos_iff.2 (Lexeme.chars_ne_nil hwf)
        rw [hcs] at htake ⊢
        rw [scanFrom_take htake]
        exact .take htake (ih _ (by rw [hcs, List.length_append]; omega) _ _ _ rfl)

theorem Walk.eq_scanFrom {prev : Option Char} {start : Nat} {cs : List Char}
    {os : List Occurrence} (h : Walk prev start cs os) : os = scanFrom 0 prev start cs := by
  induction h with
  | done => rfl
  | pass hc _ ih => rw [scanFrom_pass hc, ih]
  | take hl _ ih => rw [scanFrom_take hl, ih]

/-- **The walk meets what the scan lists.** -/
theorem walk_iff {prev : Option Char} {start : Nat} {cs : List Char} {os : List Occurrence} :
    Walk prev start cs os ↔ os = scanFrom 0 prev start cs :=
  ⟨Walk.eq_scanFrom, fun h ↦ h ▸ walk_scanFrom prev start cs⟩

theorem walk_scan (cs : List Char) : Walk none 0 cs (scan cs) :=
  walk_scanFrom none 0 cs

/-- A text that is taken whole is one lexeme. -/
theorem scan_chars {l : Lexeme} (h : Lexeme.take? none l.chars = some (l, [])) :
    scan l.chars = [⟨0, l⟩] := by
  rw [← List.append_nil l.chars] at h ⊢
  exact (walk_iff.1 (.take h .done)).symm

/-! ## What every walk has in common -/

/-- Where a word character stands, a lexeme is taken: a word if nothing else. -/
theorem Lexeme.isWordChar_eq_false_of_take?_eq_none {prev : Option Char} {c : Char}
    {cs : List Char} (h : take? prev (c :: cs) = none) : isWordChar c = false := by
  refine Bool.eq_false_iff.2 fun hc ↦ ?_
  have hword : (word false (wordRest (c :: cs)).1).chars ++ (wordRest (c :: cs)).2 = c :: cs :=
    wordRest_append (c :: cs)
  rw [← hword] at h
  exact absurd h (take?_chars_append_ne_none trivial (isWord_wordRest hc) (continuesWord_wordRest _))

namespace Walk

variable {prev : Option Char} {start : Nat} {cs : List Char} {os : List Occurrence}

theorem mem_isWellFormed (h : Walk prev start cs os) {o : Occurrence} (ho : o ∈ os) :
    o.lexeme.IsWellFormed := by
  induction h with
  | done => simp at ho
  | pass _ _ ih => exact ih ho
  | take hl _ ih =>
    rcases List.mem_cons.1 ho with rfl | ho
    · exact (Lexeme.of_take?_eq_some hl).2.1
    · exact ih ho

/-- The lexemes stand one behind the other. -/
theorem chars_sublist (h : Walk prev start cs os) :
    (os.flatMap (·.lexeme.chars)).Sublist cs := by
  induction h with
  | done => exact .slnil
  | pass _ _ ih => exact .cons _ ih
  | take _ _ ih =>
    rw [List.flatMap_cons]
    exact (List.Sublist.refl _).append ih

/-- No word character is lost: what is passed over is none. -/
theorem filter_isWordChar (h : Walk prev start cs os) :
    (os.flatMap (·.lexeme.chars)).filter isWordChar = cs.filter isWordChar := by
  induction h with
  | done => rfl
  | pass hc _ ih =>
    rw [List.filter_cons_of_neg (by simp [Lexeme.isWordChar_eq_false_of_take?_eq_none hc]), ih]
  | take _ _ ih => rw [List.flatMap_cons, List.filter_append, List.filter_append, ih]

end Walk
end SearchFilter
