import SearchFilter.Disk.Basic
import SearchFilter.Moment
import SearchFilter.Proofs.Condition.Dates

/-!
# Names in paths

A name is one part of a path, whatever stands in it.  The stamps of moments can be parts of names.

* `Path.IsName` says that a text is a name; `Path.getLast?_parts_child` that a path which goes on with
  a name ends in it.
* `Moment.slash_notMem_runStamp` and `Moment.slash_notMem_fileStamp`: no stamp is cut by a slash.
-/

set_option autoImplicit false

namespace SearchFilter

open Text

theorem Text.splitAt_of_notMem {mark : Char} {cs : List Char} (h : mark ∉ cs) :
    splitAt mark cs = [cs] := by
  induction cs with
  | nil => rfl
  | cons c cs ih =>
    rw [List.mem_cons, not_or] at h
    rw [splitAt, if_neg (Ne.symm h.1), ih h.2, extendFirst]

/-! ## Names -/

namespace Path

/-- Whether a text names something in a directory: no slash cuts it, and it is not made of dots
alone. -/
structure IsName (name : String) : Prop where
  noSlash : '/' ∉ name.toList
  notDots : ∃ c ∈ name.toList, c ≠ '.'

namespace IsName

variable {name : String}

theorem ne_dots (h : IsName name) {dots : String} (hdots : ∀ c ∈ dots.toList, c = '.') :
    name ≠ dots := by
  rintro rfl
  obtain ⟨c, hc, hne⟩ := h.notDots
  exact hne (hdots c hc)

/-- A name goes on with any text without a slash. -/
theorem append (h : IsName name) {more : String} (hmore : '/' ∉ more.toList) :
    IsName (name ++ more) := by
  obtain ⟨c, hc, hne⟩ := h.notDots
  refine ⟨?_, c, ?_, hne⟩ <;> rw [String.toList_append, List.mem_append]
  · exact not_or.2 ⟨h.noSlash, hmore⟩
  · exact .inl hc

theorem ofString_eq (h : IsName name) : ofString name = ⟨false, [name]⟩ := by
  have hempty : name ≠ "" := h.ne_dots (by simp)
  have hdot : name ≠ "." := h.ne_dots (by simp)
  have hslash : (name.toList.head? == some '/') = false :=
    beq_false_of_ne fun hhead ↦ h.noSlash (List.mem_of_head? hhead)
  rw [ofString, splitAt_of_notMem h.noSlash, hslash]
  simp [hempty, hdot]

end IsName

/-- A path that goes on with a name ends in it. -/
theorem getLast?_parts_child (path : Path) {name : String} (h : IsName name) :
    (path.child name).parts.getLast? = some name := by
  simp [child, join, h.ofString_eq]

end Path

/-! ## Stamps -/

namespace Moment

theorem slash_notMem_padded (width n : Nat) : '/' ∉ padded 10 width n := fun h ↦
  absurd (isDigit_of_mem_padded h) (by simp [WrittenDate.isDigit_slash])

theorem slash_notMem_runStamp (moment : Moment) : '/' ∉ moment.runStamp.toList := by
  simp [runStamp, two, slash_notMem_padded]

theorem slash_notMem_fileStamp (moment : Moment) : '/' ∉ moment.fileStamp.toList := by
  simp [fileStamp, two, slash_notMem_padded]

end Moment

end SearchFilter
