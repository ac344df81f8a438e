import Mathlib.Data.List.Pairwise
import Mathlib.Tactic.Push
import SearchFilter.Proofs.Lexeme.Walk
import SearchFilter.Proofs.Position

/-!
# Where the lexemes of a query stand

The lexemes of a query stand one behind the other, each where it was taken, and no lexeme starts
outside of them.

* `Course cs i os` says that the scan of a whole text, gone on with behind `i` characters, meets
  `os`; `course_scan` says that the scan runs that course from the start.
* `Course.take?_of_mem`, `Course.pairwise` and `Course.take?_eq_none`: where lexemes stand and where
  none does.
-/

set_option autoImplicit false

namespace SearchFilter

/-- The lexeme that is taken at a position. -/
def Position.take? (x : Position) : Option (Lexeme × List Char) :=
  Lexeme.take? x.prev x.rest

/-- The course of the scan through a text from its first `i` characters on. -/
inductive Course (cs : List Char) : Nat → List Occurrence → Prop
  /-- At the end nothing is left to meet. -/
  | done : Course cs cs.length []
  /-- A character that starts no lexeme is passed over. -/
  | pass {i : Nat} {os : List Occurrence} (hi : i < cs.length)
      (htake : (Position.ofIndex cs i).take? = none) (h : Course cs (i + 1) os) : Course cs i os
  /-- A lexeme is taken whole. -/
  | take {i : Nat} {l : Lexeme} {os : List Occurrence}
      (htake : (Position.ofIndex cs i).take? = some (l, cs.drop (i + l.chars.length)))
      (h : Course cs (i + l.chars.length) os) : Course cs i (⟨i, l⟩ :: os)

theorem Walk.course {prev : Option Char} {start : Nat} {rest : List Char} {os : List Occurrence}
    (h : Walk prev start rest os) {passed : List Char} (hprev : prev = passed.getLast?)
    (hstart : start = passed.length) : Course (passed ++ rest) start os := by
  induction h generalizing passed with
  | done =>
    rw [hstart, List.append_nil]
    exact .done
  | @pass prev start c cs os hc hw ih =>
    have hlast : some c = (passed ++ [c]).getLast? := by simp
    have hcourse := ih hlast (by simp [hstart])
    rw [List.append_assoc, List.singleton_append] at hcourse
    refine .pass (by simp [hstart]) ?_ hcourse
    rw [hstart, Position.ofIndex_append, Position.take?, ← hprev, hc]
  | @take prev start l rest os hl hw ih =>
    obtain ⟨-, hwf, -, -⟩ := Lexeme.of_take?_eq_some hl
    have hlast : l.chars.getLast? = (passed ++ l.chars).getLast? := by
      rw [List.getLast?_append, List.getLast?_eq_some_getLast (Lexeme.chars_ne_nil hwf),
        Option.some_or]
    have hlength : start + l.chars.length = (passed ++ l.chars).length := by
      rw [hstart, List.length_append]
    have hcourse := ih hlast hlength
    rw [List.append_assoc] at hcourse
    refine .take ?_ hcourse
    have hrest : (passed ++ (l.chars ++ rest)).drop (start + l.chars.length) = rest := by
      rw [← List.append_assoc, hlength, List.drop_left]
    rw [hrest, hstart, Position.ofIndex_append, Position.take?, ← hprev, hl]

theorem course_scan (cs : List Char) : Course cs 0 (scan cs) := by
  have hstart : (none : Option Char) = [].getLast? := rfl
  exact (walk_scan cs).course hstart rfl

theorem Lexeme.take?_nil (prev : Option Char) : take? prev [] = none := by
  rw [Option.eq_none_iff_forall_ne_some]
  rintro ⟨l, rest⟩ htake
  obtain ⟨-, hwf, -, hcs⟩ := of_take?_eq_some htake
  exact chars_ne_nil hwf (List.append_eq_nil_iff.1 hcs.symm).1

namespace Course

variable {cs : List Char} {i : Nat} {os : List Occurrence}

theorem le_start (h : Course cs i os) {o : Occurrence} (ho : o ∈ os) : i ≤ o.start := by
  induction h with
  | done => exact absurd ho List.not_mem_nil
  | pass _ _ _ ih => exact Nat.le_of_succ_le (ih ho)
  | take _ _ ih =>
    rcases List.mem_cons.1 ho with rfl | ho
    · exact Nat.le_refl _
    · exact Nat.le_of_add_right_le (ih ho)

/-- **The lexemes stand one behind the other.** -/
theorem pairwise (h : Course cs i os) : os.Pairwise fun o o' ↦ o.stop ≤ o'.start := by
  induction h with
  | done => exact .nil
  | pass _ _ _ ih => exact ih
  | take _ hw ih => exact .cons (fun _ ho ↦ hw.le_start ho) ih

/-- Of two lexemes one stands behind the other. -/
theorem disjoint (h : Course cs i os) {o o' : Occurrence} (ho : o ∈ os) (ho' : o' ∈ os)
    (hne : o ≠ o') : o.stop ≤ o'.start ∨ o'.stop ≤ o.start := by
  have hpairwise : os.Pairwise fun o o' ↦ o.stop ≤ o'.start ∨ o'.stop ≤ o.start :=
    h.pairwise.imp Or.inl
  have hsymm : Std.Symm fun o o' : Occurrence ↦ o.stop ≤ o'.start ∨ o'.stop ≤ o.start :=
    ⟨fun _ _ ↦ Or.symm⟩
  exact hpairwise.forall ho ho' hne

/-- No place is in two lexemes. -/
theorem eq_of_mem (h : Course cs i os) {o o' : Occurrence} (ho : o ∈ os) (ho' : o' ∈ os) {p : Nat}
    (hp : o.start ≤ p ∧ p < o.stop) (hp' : o'.start ≤ p ∧ p < o'.stop) : o = o' := by
  by_contra hne
  have hcut := h.disjoint ho ho' hne
  omega

/-- **Each lexeme is taken where it stands.** -/
theorem take?_of_mem (h : Course cs i os) {o : Occurrence} (ho : o ∈ os) :
    (Position.ofIndex cs o.start).take? = some (o.lexeme, cs.drop o.stop) := by
  induction h with
  | done => exact absurd ho List.not_mem_nil
  | pass _ _ _ ih => exact ih ho
  | take htake _ ih =>
    rcases List.mem_cons.1 ho with rfl | ho
    · exact htake
    · exact ih ho

theorem isWellFormed (h : Course cs i os) {o : Occurrence} (ho : o ∈ os) :
    o.lexeme.IsWellFormed :=
  (Lexeme.of_take?_eq_some (h.take?_of_mem ho)).2.1

theorem drop_start (h : Course cs i os) {o : Occurrence} (ho : o ∈ os) :
    cs.drop o.start = o.lexeme.chars ++ cs.drop o.stop :=
  (Lexeme.of_take?_eq_some (h.take?_of_mem ho)).2.2.2

theorem start_lt_stop (h : Course cs i os) {o : Occurrence} (ho : o ∈ os) : o.start < o.stop :=
  Nat.lt_add_of_pos_right (List.length_pos_iff.2 (Lexeme.chars_ne_nil (h.isWellFormed ho)))

theorem stop_le_length (h : Course cs i os) {o : Occurrence} (ho : o ∈ os) :
    o.stop ≤ cs.length := by
  have hlength := congrArg List.length (h.drop_start ho)
  have hlt := h.start_lt_stop ho
  rw [List.length_append, List.length_drop, List.length_drop, Occurrence.stop] at *
  omega

/-- A lexeme is the part of the text between its two ends. -/
theorem chars_eq_extract (h : Course cs i os) {o : Occurrence} (ho : o ∈ os) :
    o.lexeme.chars = cs.extract o.start o.stop := by
  rw [List.extract_eq_take_drop, h.drop_start ho, Occurrence.stop, Nat.add_sub_cancel_left,
    List.take_left]

/-- Behind a lexeme stands its last character. -/
theorem prev_stop (h : Course cs i os) {o : Occurrence} (ho : o ∈ os) :
    (Position.ofIndex cs o.stop).prev = o.lexeme.chars.getLast? := by
  rw [Occurrence.stop, Position.ofIndex_add (h.drop_start ho), Position.behind,
    List.getLast?_eq_some_getLast (Lexeme.chars_ne_nil (h.isWellFormed ho)), Option.some_or]

/-- **Outside of the lexemes none starts.** -/
theorem take?_eq_none (h : Course cs i os) {n : Nat} (hn : i ≤ n)
    (hout : ∀ o ∈ os, n < o.start ∨ o.stop ≤ n) : (Position.ofIndex cs n).take? = none := by
  induction h with
  | done =>
    rw [Position.take?, Position.ofIndex, List.drop_of_length_le hn]
    exact Lexeme.take?_nil _
  | pass _ htake _ ih =>
    rcases Nat.eq_or_lt_of_le hn with rfl | hn
    · exact htake
    · exact ih hn hout
  | take _ _ ih =>
    obtain ⟨ho, hout⟩ := List.forall_mem_cons.1 hout
    refine ih ?_ hout
    exact ho.resolve_left (Nat.not_lt.2 hn)

/-- Where a lexeme could be taken, one stands. -/
theorem exists_mem_of_take?_ne_none (h : Course cs i os) {n : Nat} (hn : i ≤ n)
    (htake : (Position.ofIndex cs n).take? ≠ none) : ∃ o ∈ os, o.start ≤ n ∧ n < o.stop := by
  by_contra hout
  push Not at hout
  exact htake (h.take?_eq_none hn fun o ho ↦ (Nat.lt_or_ge n o.start).imp_right (hout o ho))

end Course
end SearchFilter
