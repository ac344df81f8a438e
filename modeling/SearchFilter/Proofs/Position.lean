import Mathlib.Data.List.Basic

/-!
# Positions in a text

What can be matched at a position depends on the text behind it and on the character before it.

* `Position` is a position in a text, `Position.ofIndex` the one behind so many characters.
* `Position.Passes` says what stands between two positions; `Position.passes_append` cuts that in
  two.
-/

set_option autoImplicit false

namespace SearchFilter

/-- A position in a text: the character before it, if there is one, and the text behind it. -/
@[ext]
structure Position where
  prev : Option Char
  rest : List Char
deriving DecidableEq, Repr

namespace Position

/-- The position behind the first `i` characters of a text. -/
def ofIndex (cs : List Char) (i : Nat) : Position :=
  ⟨(cs.take i).getLast?, cs.drop i⟩

/-- The position behind `taken`, when `rest` is what follows. -/
def behind (x : Position) (taken rest : List Char) : Position :=
  ⟨taken.getLast?.or x.prev, rest⟩

/-- Whether `taken` is what stands between two positions. -/
def Passes (x : Position) (taken : List Char) (y : Position) : Prop :=
  x.rest = taken ++ y.rest ∧ y.prev = taken.getLast?.or x.prev

variable {x y z : Position} {taken : List Char}

theorem ofIndex_append (passed rest : List Char) :
    ofIndex (passed ++ rest) passed.length = ⟨passed.getLast?, rest⟩ := by
  rw [ofIndex, List.take_left, List.drop_left]

theorem ofIndex_eq_cons {cs : List Char} {i : Nat} (hi : i < cs.length) :
    ofIndex cs i = ⟨(cs.take i).getLast?, cs[i] :: cs.drop (i + 1)⟩ := by
  rw [ofIndex, List.drop_eq_getElem_cons hi]

theorem ofIndex_succ {cs : List Char} {i : Nat} (hi : i < cs.length) :
    ofIndex cs (i + 1) = ⟨some cs[i], cs.drop (i + 1)⟩ := by
  rw [ofIndex, List.take_succ_eq_append_getElem hi, List.getLast?_concat]

theorem ofIndex_add {cs taken rest : List Char} {i : Nat} (h : cs.drop i = taken ++ rest) :
    ofIndex cs (i + taken.length) = (ofIndex cs i).behind taken rest := by
  rw [ofIndex, behind, ofIndex, List.take_add, ← List.drop_drop, h, List.take_left, List.drop_left,
    List.getLast?_append]

theorem passes_iff : x.Passes taken y ↔ x.rest = taken ++ y.rest ∧ y = x.behind taken y.rest := by
  rw [Passes, Position.ext_iff (y := x.behind taken y.rest)]
  simp [behind]

theorem Passes.eq_behind (h : x.Passes taken y) : y = x.behind taken y.rest :=
  (passes_iff.1 h).2

@[simp]
theorem passes_nil : x.Passes [] y ↔ y = x := by
  rw [Passes, Position.ext_iff, List.nil_append, List.getLast?_nil, Option.none_or,
    and_comm, eq_comm (a := x.rest)]

theorem Passes.unique (hy : x.Passes taken y) (hz : x.Passes taken z) : y = z := by
  have hrest : y.rest = z.rest := List.append_cancel_left (hy.1.symm.trans hz.1)
  rw [hy.eq_behind, hz.eq_behind, hrest]

theorem Passes.length (h : x.Passes taken y) : x.rest.length = taken.length + y.rest.length := by
  rw [h.1, List.length_append]

theorem passes_append {more : List Char} :
    x.Passes (taken ++ more) z ↔ ∃ y, x.Passes taken y ∧ y.Passes more z := by
  have hlast : (taken ++ more).getLast?.or x.prev =
      more.getLast?.or (taken.getLast?.or x.prev) := by
    rw [List.getLast?_append, Option.or_assoc]
  constructor
  · rintro ⟨hrest, hprev⟩
    refine ⟨⟨taken.getLast?.or x.prev, more ++ z.rest⟩, ⟨?_, rfl⟩, rfl, ?_⟩
    · rw [hrest, List.append_assoc]
    · rw [hprev, hlast]
  · rintro ⟨y, ⟨hrest, hprev⟩, hrest', hprev'⟩
    refine ⟨?_, ?_⟩
    · rw [hrest, hrest', List.append_assoc]
    · rw [hprev', hprev, hlast]

theorem behind_behind (x : Position) (taken more rest rest' : List Char) :
    (x.behind taken rest).behind more rest' = x.behind (taken ++ more) rest' := by
  rw [behind, behind, behind, List.getLast?_append, Option.or_assoc]

theorem Passes.append {more : List Char} (h : x.Passes taken y) (h' : y.Passes more z) :
    x.Passes (taken ++ more) z :=
  passes_append.2 ⟨y, h, h'⟩

end Position

end SearchFilter
