import Mathlib.Data.List.TakeWhile
import SearchFilter.Lexeme.Take

/-!
# Which characters can be which

The shapes of a query are told apart by single characters: a blank never belongs to a word, a joiner
is neither, and no mark of the query language is a word character.

* `isWordChar_eq_false_of_isBlank` keeps words and blanks apart; the lemmas behind it are the forms
  in which that is used.
* `isWordChar_quote`, `isWordChar_hyphen` and `isWordChar_space` keep the marks and words apart.
* `takeWhile_append_of_stop` and `dropWhile_append_of_stop` cut a text behind a run of characters of
  one kind.
-/

set_option autoImplicit false

namespace SearchFilter

open Unicode

/-! ## Blanks and word characters -/

theorem isWordChar_ofNat_of_mem_blankRanges :
    ∀ r ∈ blankRanges, ∀ n ∈ List.range' r.1 (r.2 + 1 - r.1),
      isWordChar (Char.ofNat n) = false := by
  decide +kernel

/-- **No blank belongs to a word.** -/
theorem isWordChar_eq_false_of_isBlank {c : Char} (h : isBlank c = true) :
    isWordChar c = false := by
  obtain ⟨r, hr, hlow, hhigh⟩ := inRanges_iff.1 h
  have hmem : c.toNat ∈ List.range' r.1 (r.2 + 1 - r.1) := by
    rw [List.mem_range'_1]
    omega
  simpa using isWordChar_ofNat_of_mem_blankRanges r hr c.toNat hmem

theorem isBlank_eq_false_of_isWordChar {c : Char} (h : isWordChar c = true) :
    isBlank c = false := by
  refine Bool.eq_false_iff.2 fun hb ↦ ?_
  rw [isWordChar_eq_false_of_isBlank hb] at h
  exact Bool.false_ne_true h

theorem isBlank_eq_false_of_isDigit {c : Char} (h : isDigit c = true) : isBlank c = false :=
  isBlank_eq_false_of_isWordChar (isWordChar_of_isDigit h)

theorem isDigit_eq_false_of_isWordChar {c : Char} (h : isWordChar c = false) :
    isDigit c = false := by
  refine Bool.eq_false_iff.2 fun hd ↦ ?_
  rw [isWordChar_of_isDigit hd] at h
  exact Bool.false_ne_true h.symm

theorem isWordChar_quote : isWordChar '"' = false := by decide +kernel

theorem isWordChar_hyphen : isWordChar '-' = false := by decide +kernel

theorem isWordChar_space : isWordChar ' ' = false := by decide +kernel

/-! ## Runs of characters

A run is taken whole when what follows it starts with a character of another kind. -/

section Runs

variable {α : Type} {p : α → Bool} {run rest : List α}

theorem takeWhile_append_of_stop (hrun : ∀ x ∈ run, p x = true)
    (hrest : rest.head?.any p = false) : (run ++ rest).takeWhile p = run := by
  rw [List.takeWhile_append_of_pos hrun]
  cases rest with
  | nil => simp
  | cons x rest =>
    have hx : p x = false := by simpa using hrest
    rw [List.takeWhile_cons_of_neg (by simp [hx]), List.append_nil]

theorem dropWhile_append_of_stop (hrun : ∀ x ∈ run, p x = true)
    (hrest : rest.head?.any p = false) : (run ++ rest).dropWhile p = rest := by
  rw [List.dropWhile_append_of_pos hrun]
  cases rest with
  | nil => rfl
  | cons x rest =>
    have hx : p x = false := by simpa using hrest
    rw [List.dropWhile_cons_of_neg (by simp [hx])]

theorem head?_any_dropWhile (p : α → Bool) (xs : List α) :
    (xs.dropWhile p).head?.any p = false := by
  have h := List.head?_dropWhile_not p xs
  cases hd : (xs.dropWhile p).head? with
  | none => rfl
  | some x =>
    rw [hd] at h
    exact h

end Runs

end SearchFilter
