import Mathlib.Tactic.IntervalCases
import SearchFilter.Proofs.Lexeme.Span

/-!
# Words are whole

A lexeme that ends with a word character is followed by none, and what is passed over is no word
character.  So a run of word characters is never cut, wherever the lexemes of a query start and end.

* `Position.isWithinRun` says that a position is between two word characters.
* `Lexeme.EndsBefore.isWithinRun_eq_false`: no lexeme ends there.
* `Course.isWithinRun_start` and `Course.isWithinRun_stop`: no lexeme of a query starts or ends
  there.
* `runs_are_whole`: a run of word characters lies in one lexeme.
-/

set_option autoImplicit false

namespace SearchFilter

open Unicode

/-! ## Between two word characters -/

/-- Whether a position is between two word characters. -/
def Position.isWithinRun (x : Position) : Bool :=
  x.prev.any isWordChar && startsWithWordChar x.rest

theorem startsWithWordChar_drop (cs : List Char) (i : Nat) :
    startsWithWordChar (cs.drop i) = cs[i]?.any isWordChar := by
  rw [← List.head?_drop]
  cases cs.drop i <;> rfl

theorem Position.isWithinRun_ofIndex_succ (cs : List Char) (i : Nat) :
    (ofIndex cs (i + 1)).isWithinRun =
      (cs[i]?.any isWordChar && cs[i + 1]?.any isWordChar) := by
  rw [isWithinRun, ofIndex, startsWithWordChar_drop]
  by_cases hi : i < cs.length
  · rw [List.take_succ_eq_append_getElem hi, List.getLast?_concat, List.getElem?_eq_getElem hi]
  · rw [List.getElem?_eq_none (i := i + 1) (by omega), Option.any_none, Bool.and_false,
      Bool.and_false]

/-! ## Where a lexeme ends -/

theorem startsWithWordChar_eq_false_of_continuesWord {cs : List Char}
    (h : continuesWord cs = false) : startsWithWordChar cs = false := by
  cases cs with
  | nil => rfl
  | cons c cs => exact (Bool.or_eq_false_iff.1 h).1

theorem isWordChar_getLast?_quoted (content : List Char) :
    (Term.quoted content).chars.getLast?.any isWordChar = false := by
  rw [Term.chars, ← List.cons_append, List.getLast?_concat]
  exact isWordChar_quote

/-- What ends with a word character ends where no other follows; a text in quotes ends with none. -/
theorem Term.EndsBefore.isWithinRun_eq_false {t : Term} {rest : List Char} (h : t.EndsBefore rest) :
    (t.chars.getLast?.any isWordChar && startsWithWordChar rest) = false := by
  cases t with
  | word w => rw [startsWithWordChar_eq_false_of_continuesWord h, Bool.and_false]
  | quoted content => rw [isWordChar_getLast?_quoted, Bool.false_and]

theorem Lexeme.getLast?_chars_orPair {left right : Term} (h : right.IsWellFormed)
    (gap gap' : List Char) :
    (orPair left gap gap' right).chars.getLast? = right.chars.getLast? := by
  obtain ⟨c, cs, hcs, -⟩ := right.exists_cons h
  rw [chars, List.getLast?_append_of_ne_nil _ (by simp [hcs])]

theorem Lexeme.getLast?_chars_phrase (negated : Bool) (content : List Char) :
    (phrase negated content).chars.getLast? = (Term.quoted content).chars.getLast? :=
  List.getLast?_append_of_ne_nil _ (List.cons_ne_nil _ _)

/-- **No lexeme ends between two word characters.** -/
theorem Lexeme.EndsBefore.isWithinRun_eq_false {l : Lexeme} {rest : List Char}
    (hwf : l.IsWellFormed) (h : l.EndsBefore rest) :
    (l.chars.getLast?.any isWordChar && startsWithWordChar rest) = false := by
  cases l with
  | orPair left gap gap' right =>
    rw [getLast?_chars_orPair hwf.2.1]
    exact Term.EndsBefore.isWithinRun_eq_false h
  | word negated w => rw [startsWithWordChar_eq_false_of_continuesWord h, Bool.and_false]
  | phrase negated content =>
    rw [getLast?_chars_phrase, isWordChar_getLast?_quoted, Bool.false_and]
  | _ => rw [show startsWithWordChar rest = false from h, Bool.and_false]

/-! ## Where the lexemes of a query stand -/

namespace Course

variable {cs : List Char} {os : List Occurrence}

theorem isWithinRun_stop {i : Nat} (h : Course cs i os) {o : Occurrence} (ho : o ∈ os) :
    (Position.ofIndex cs o.stop).isWithinRun = false := by
  obtain ⟨-, hwf, hend, -⟩ := Lexeme.of_take?_eq_some (h.take?_of_mem ho)
  rw [Position.isWithinRun, h.prev_stop ho]
  exact Lexeme.EndsBefore.isWithinRun_eq_false hwf hend

/-- A word character stands in a lexeme. -/
theorem exists_mem_of_isWordChar (h : Course cs 0 os) {n : Nat}
    (hn : cs[n]?.any isWordChar = true) : ∃ o ∈ os, o.start ≤ n ∧ n < o.stop := by
  refine h.exists_mem_of_take?_ne_none (Nat.zero_le n) fun hnone ↦ ?_
  have hlt : n < cs.length := by
    by_contra hge
    rw [List.getElem?_eq_none (Nat.le_of_not_lt hge)] at hn
    exact Bool.false_ne_true hn
  rw [Position.ofIndex_eq_cons hlt] at hnone
  rw [List.getElem?_eq_getElem hlt, Option.any_some,
    Lexeme.isWordChar_eq_false_of_take?_eq_none hnone] at hn
  exact Bool.false_ne_true hn

/-- A lexeme that started there would start where the one before it ends. -/
theorem isWithinRun_start (h : Course cs 0 os) {o : Occurrence} (ho : o ∈ os) :
    (Position.ofIndex cs o.start).isWithinRun = false := by
  cases hstart : o.start with
  | zero => rfl
  | succ n =>
    refine Bool.eq_false_iff.2 fun hwithin ↦ ?_
    have hboth := hwithin
    rw [Position.isWithinRun_ofIndex_succ, Bool.and_eq_true] at hboth
    obtain ⟨o', ho', hstart', hstop'⟩ := h.exists_mem_of_isWordChar hboth.1
    have hne : o' ≠ o := by
      rintro rfl
      omega
    have hlt := h.start_lt_stop ho
    have hstop : o'.stop = n + 1 := by
      have hcut := h.disjoint ho' ho hne
      omega
    rw [← hstop, h.isWithinRun_stop ho'] at hwithin
    exact Bool.false_ne_true hwithin

/-- No lexeme ends within a run that starts in it. -/
theorem le_stop_of_run (h : Course cs 0 os) {o : Occurrence} (ho : o ∈ os) {i j : Nat}
    (hi : o.start ≤ i ∧ i < o.stop) (hrun : ∀ k, i ≤ k → k < j → cs[k]?.any isWordChar = true) :
    j ≤ o.stop := by
  by_contra hlt
  have hwithin := h.isWithinRun_stop ho
  obtain ⟨n, hn⟩ : ∃ n, o.stop = n + 1 := ⟨o.stop - 1, by omega⟩
  rw [hn, Position.isWithinRun_ofIndex_succ, hrun n (by omega) (by omega),
    hrun (n + 1) (by omega) (by omega)] at hwithin
  exact Bool.false_ne_true hwithin.symm

end Course

/-- **Runs of word characters are never cut.**  Each lies in one lexeme of the query, and no other
lexeme has a part of it; no lexeme starts or ends between two word characters. -/
theorem runs_are_whole (cs : List Char) :
    (∀ i j, i < j → (∀ k, i ≤ k → k < j → cs[k]?.any isWordChar = true) →
      ∃ o ∈ scan cs, o.start ≤ i ∧ j ≤ o.stop ∧
        ∀ o' ∈ scan cs, o'.start < j → i < o'.stop → o' = o) ∧
    ∀ o ∈ scan cs, (Position.ofIndex cs o.start).isWithinRun = false ∧
      (Position.ofIndex cs o.stop).isWithinRun = false := by
  have hcourse := course_scan cs
  refine ⟨fun i j hij hrun ↦ ?_,
    fun o ho ↦ ⟨hcourse.isWithinRun_start ho, hcourse.isWithinRun_stop ho⟩⟩
  obtain ⟨o, ho, hstart, hlt⟩ := hcourse.exists_mem_of_isWordChar (hrun i (Nat.le_refl i) hij)
  have hstop := hcourse.le_stop_of_run ho ⟨hstart, hlt⟩ hrun
  refine ⟨o, ho, hstart, hstop, fun o' ho' hstart' hstop' ↦ ?_⟩
  by_contra hne
  have hcut := hcourse.disjoint ho' ho hne
  omega

/-- Eight digits of a run of nine are no date, even beside one. -/
theorem runs_are_whole_beside_date :
    ∃ o ∈ scan "1/2/2009 20090115x".toList, o.start ≤ 9 ∧ 18 ≤ o.stop := by
  have hrun : ∀ k, 9 ≤ k → k < 18 →
      "1/2/2009 20090115x".toList[k]?.any isWordChar = true := by
    intro k hlow hhigh
    interval_cases k <;> decide +kernel
  obtain ⟨o, ho, hstart, hstop, -⟩ := (runs_are_whole _).1 9 18 (by decide) hrun
  exact ⟨o, ho, hstart, hstop⟩

end SearchFilter
