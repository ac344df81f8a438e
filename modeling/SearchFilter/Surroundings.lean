import SearchFilter.Unicode.Letter

/-!
# What is around a run

A text from outside can hold surrogates that stand alone, where a name or an argument was not written in
UTF-8 or an escape asks for one.  These are no characters, so others stand in for them, out of those
that Unicode leaves to private use.  Any choice of them will do for texts in which they have no other
meaning.

* `Surroundings` is such a choice, with the one other thing that a run leaves to what is around it.
* `codePoint` is the code point that a character means.
* `lastPrivate` chooses characters near the end of all code points; it is the choice that runs.
-/

set_option autoImplicit false

namespace SearchFilter
namespace Unicode

/-- Whether a code point is a surrogate. -/
def isSurrogate (n : Nat) : Bool :=
  0xD800 ≤ n && n ≤ 0xDFFF

/-- The code points that Unicode leaves to private use. -/
def privateRanges : List (Nat × Nat) := [
  (0xE000, 0xF8FF), (0xF0000, 0xFFFFD), (0x100000, 0x10FFFD)]

end Unicode

open Unicode

/-- What a run leaves to what is around it. -/
class Surroundings where
  /-- The surrogate that a character stands in for, if it does. -/
  surrogate? : Char → Option Nat
  /-- The character that stands in for a surrogate. -/
  standIn : Nat → Char
  surrogate?_standIn : ∀ {n}, isSurrogate n → surrogate? (standIn n) = some n
  isSurrogate_of_eq_some : ∀ {c n}, surrogate? c = some n → isSurrogate n
  standIn_of_eq_some : ∀ {c n}, surrogate? c = some n → standIn n = c
  isPrivate_of_eq_some : ∀ {c n}, surrogate? c = some n → inRanges privateRanges c.toNat
  /-- What is shown of a line that a file cannot take, beside the line. -/
  report : String → String

namespace Surroundings

/-- The surrogate for which the character of a code point near the end stands in. -/
def lastPrivate? (code : Nat) : Option Nat :=
  if 0x10F000 ≤ code ∧ code ≤ 0x10F7FF then some (code - 0x101800) else none

theorem lastPrivate?_eq_some_iff {code n : Nat} :
    lastPrivate? code = some n ↔ isSurrogate n = true ∧ code = n + 0x101800 := by
  simp only [lastPrivate?, Option.ite_none_right_eq_some, Option.some.injEq, isSurrogate,
    Bool.and_eq_true, decide_eq_true_eq]
  omega

theorem toNat_ofNat_of_isSurrogate {n : Nat} (h : isSurrogate n = true) :
    (Char.ofNat (n + 0x101800)).toNat = n + 0x101800 := by
  have hvalid : (n + 0x101800).isValidChar := by
    simp only [isSurrogate, Bool.and_eq_true, decide_eq_true_eq] at h
    exact .inr (by omega)
  rw [Char.ofNat, dif_pos hvalid]
  rfl

/-- Characters near the end of all code points. -/
instance lastPrivate : Surroundings where
  surrogate? c := lastPrivate? c.toNat
  standIn n := Char.ofNat (n + 0x101800)
  surrogate?_standIn h := lastPrivate?_eq_some_iff.2 ⟨h, toNat_ofNat_of_isSurrogate h⟩
  isSurrogate_of_eq_some h := (lastPrivate?_eq_some_iff.1 h).1
  standIn_of_eq_some {c n} h := by
    rw [← (lastPrivate?_eq_some_iff.1 h).2, Char.ofNat_toNat]
  isPrivate_of_eq_some {c n} h := by
    obtain ⟨hrange, hcode⟩ := lastPrivate?_eq_some_iff.1 h
    simp only [isSurrogate, Bool.and_eq_true, decide_eq_true_eq] at hrange
    exact inRanges_iff.2 ⟨(0x100000, 0x10FFFD), by simp [privateRanges], by omega, by omega⟩
  report _ := "--- Logging error ---\n"

end Surroundings

/-- The code point that a character means. -/
def codePoint [Surroundings] (c : Char) : Nat :=
  (Surroundings.surrogate? c).getD c.toNat

end SearchFilter
