import SearchFilter.Proofs.Lexeme.Term

/-!
# Dates as they are written

`WrittenDate.take?` decides the form of a date by the first group of digits and the mark behind it.
That loses nothing: a date in any of the four forms is recognised as what it is, wherever no word
character follows it.

* `WrittenDate.take?_eq_some_iff` says exactly when a date is taken.
* `WrittenDate.exists_cons` and `WrittenDate.mem_chars` say which characters a date is made of.
-/

set_option autoImplicit false

namespace SearchFilter
namespace WrittenDate

open Unicode

/-! ## The groups of digits -/

theorem isDigit_slash : isDigit '/' = false := by decide

theorem isDigit_hyphen : isDigit '-' = false := by decide

theorem takeGroups?_eq_some_iff {mark : Char} {cs second third rest : List Char}
    (hmark : isDigit mark = false) :
    takeGroups? mark cs = some (second, third, rest) ↔
      (∀ c ∈ second, isDigit c = true) ∧ (∀ c ∈ third, isDigit c = true) ∧
        rest.head?.any isDigit = false ∧ cs = mark :: (second ++ mark :: (third ++ rest)) := by
  constructor
  · intro h
    unfold takeGroups? at h
    split at h
    · simp at h
    · next c cs =>
      split at h
      · next hc =>
        split at h
        · simp at h
        · next c' rest₀ hdrop =>
          split at h
          · next hc' =>
            simp only [Option.some.injEq, Prod.mk.injEq] at h
            obtain ⟨rfl, rfl, rfl⟩ := h
            refine ⟨fun c hc ↦ List.mem_takeWhile_imp hc, fun c hc ↦ List.mem_takeWhile_imp hc,
              head?_any_dropWhile isDigit rest₀, ?_⟩
            rw [List.takeWhile_append_dropWhile, ← hc', ← hdrop, List.takeWhile_append_dropWhile,
              hc', hc]
          · simp at h
      · simp at h
  · rintro ⟨hsecond, hthird, hrest, rfl⟩
    have hstop : (mark :: (third ++ rest)).head?.any isDigit = false := hmark
    simp only [takeGroups?, if_true, takeWhile_append_of_stop hsecond hstop,
      dropWhile_append_of_stop hsecond hstop, takeWhile_append_of_stop hthird hrest,
      dropWhile_append_of_stop hthird hrest]

/-- The groups of a well-formed date are digits, and their lengths are those of its form. -/
theorem isWellFormed_iff {d : WrittenDate} :
    d.isWellFormed = true ↔
      (∀ c ∈ d.first, isDigit c = true) ∧ (∀ c ∈ d.second, isDigit c = true) ∧
        (∀ c ∈ d.third, isDigit c = true) ∧
        d.form.hasWidths d.first.length d.second.length d.third.length = true := by
  simp only [isWellFormed, Bool.and_eq_true, List.all_eq_true, and_assoc]

theorem isShort_iff {n : Nat} : DateForm.hasWidths.isShort n = true ↔ n = 1 ∨ n = 2 := by
  simp [DateForm.hasWidths.isShort]

theorem head?_any_isDigit {rest : List Char} (h : startsWithWordChar rest = false) :
    rest.head?.any isDigit = false := by
  cases rest with
  | nil => rfl
  | cons c rest => exact isDigit_eq_false_of_isWordChar h

/-! ## Taking a date -/

/-- What is taken is what stood there. -/
theorem chars_append_of_takeCandidate? {cs rest : List Char} {d : WrittenDate}
    (h : takeCandidate? cs = some (d, rest)) : cs = d.chars ++ rest := by
  unfold takeCandidate? at h
  simp only at h
  split at h
  · simp only [Option.some.injEq, Prod.mk.injEq] at h
    obtain ⟨rfl, rfl⟩ := h
    have hdrop : (cs.takeWhile isDigit).drop 6 = ((cs.takeWhile isDigit).drop 4).drop 2 := by
      rw [List.drop_drop]
    simp only [chars, DateForm.mark, List.append_nil]
    rw [hdrop, List.append_assoc (List.take _ _), List.take_append_drop, List.take_append_drop,
      List.takeWhile_append_dropWhile]
  · split at h
    · next second third rest₀ hslash =>
      simp only [Option.some.injEq, Prod.mk.injEq] at h
      obtain ⟨rfl, rfl⟩ := h
      obtain ⟨-, -, -, hrest⟩ := (takeGroups?_eq_some_iff isDigit_slash).1 hslash
      refine (List.takeWhile_append_dropWhile (p := isDigit)).symm.trans ?_
      rw [hrest]
      split <;> simp [chars, DateForm.mark]
    · next second third rest₀ _ hhyphen =>
      simp only [Option.some.injEq, Prod.mk.injEq] at h
      obtain ⟨rfl, rfl⟩ := h
      obtain ⟨-, -, -, hrest⟩ := (takeGroups?_eq_some_iff isDigit_hyphen).1 hhyphen
      refine (List.takeWhile_append_dropWhile (p := isDigit)).symm.trans ?_
      rw [hrest]
      simp [chars, DateForm.mark]
    · simp at h

/-- Eight digits in a row are a date of the compact form. -/
theorem takeCandidate?_compact {first second third rest : List Char}
    (hall : ∀ c ∈ first ++ second ++ third, isDigit c = true)
    (hrest : rest.head?.any isDigit = false)
    (hfirst : first.length = 4) (hsecond : second.length = 2) (hthird : third.length = 2) :
    takeCandidate? (first ++ second ++ third ++ rest) =
      some (⟨.compact, first, second, third⟩, rest) := by
  simp only [takeCandidate?, takeWhile_append_of_stop hall hrest,
    dropWhile_append_of_stop hall hrest]
  rw [if_pos (by simp [hfirst, hsecond, hthird])]
  simp [hfirst, hsecond, List.drop_append]

/-- Slashes are of the form that the length of the first group tells. -/
theorem takeCandidate?_slashes {first second third rest : List Char}
    (hfirst : ∀ c ∈ first, isDigit c = true) (hne : first.length ≠ 8)
    (hgroups : takeGroups? '/' ('/' :: (second ++ '/' :: (third ++ rest))) =
      some (second, third, rest)) :
    takeCandidate? (first ++ '/' :: (second ++ '/' :: (third ++ rest))) =
      some (⟨if first.length = 4 then .yearFirst else .monthFirst, first, second, third⟩,
        rest) := by
  have hmark : ('/' :: (second ++ '/' :: (third ++ rest))).head?.any isDigit = false :=
    isDigit_slash
  simp only [takeCandidate?, takeWhile_append_of_stop hfirst hmark,
    dropWhile_append_of_stop hfirst hmark, if_neg hne, hgroups]

/-- Hyphens are of one form. -/
theorem takeCandidate?_hyphens {first second third rest : List Char}
    (hfirst : ∀ c ∈ first, isDigit c = true) (hne : first.length ≠ 8)
    (hgroups : takeGroups? '-' ('-' :: (second ++ '-' :: (third ++ rest))) =
      some (second, third, rest)) :
    takeCandidate? (first ++ '-' :: (second ++ '-' :: (third ++ rest))) =
      some (⟨.dashed, first, second, third⟩, rest) := by
  have hmark : ('-' :: (second ++ '-' :: (third ++ rest))).head?.any isDigit = false :=
    isDigit_hyphen
  have hslash : takeGroups? '/' ('-' :: (second ++ '-' :: (third ++ rest))) = none := by
    simp [takeGroups?]
  simp only [takeCandidate?, takeWhile_append_of_stop hfirst hmark,
    dropWhile_append_of_stop hfirst hmark, if_neg hne, hslash, hgroups]

/-- A well-formed date is recognised by its first group and the mark behind that. -/
theorem takeCandidate?_chars_append {d : WrittenDate} {rest : List Char}
    (hd : d.isWellFormed = true) (hrest : startsWithWordChar rest = false) :
    takeCandidate? (d.chars ++ rest) = some (d, rest) := by
  obtain ⟨hfirst, hsecond, hthird, hwidths⟩ := isWellFormed_iff.1 hd
  have hstop := head?_any_isDigit hrest
  obtain ⟨form, first, second, third⟩ := d
  simp only at hfirst hsecond hthird hwidths
  have hgroups : ∀ {mark : Char}, isDigit mark = false →
      takeGroups? mark (mark :: (second ++ mark :: (third ++ rest))) = some (second, third, rest) :=
    fun hmark ↦ (takeGroups?_eq_some_iff hmark).2 ⟨hsecond, hthird, hstop, rfl⟩
  cases form with
  | monthFirst =>
    simp only [DateForm.hasWidths, Bool.and_eq_true, isShort_iff] at hwidths
    simp only [chars, DateForm.mark, List.append_assoc, List.cons_append, List.nil_append]
    rw [takeCandidate?_slashes hfirst (by omega) (hgroups isDigit_slash), if_neg (by omega)]
  | yearFirst =>
    simp only [DateForm.hasWidths, Bool.and_eq_true, beq_iff_eq] at hwidths
    simp only [chars, DateForm.mark, List.append_assoc, List.cons_append, List.nil_append]
    rw [takeCandidate?_slashes hfirst (by omega) (hgroups isDigit_slash), if_pos hwidths.1.1]
  | compact =>
    simp only [DateForm.hasWidths, Bool.and_eq_true, beq_iff_eq] at hwidths
    simp only [chars, DateForm.mark, List.append_nil]
    refine takeCandidate?_compact (fun c hc ↦ ?_) hstop hwidths.1.1 hwidths.1.2 hwidths.2
    simp only [List.mem_append] at hc
    exact hc.elim (fun hc ↦ hc.elim (hfirst c) (hsecond c)) (hthird c)
  | dashed =>
    simp only [DateForm.hasWidths, Bool.and_eq_true, beq_iff_eq] at hwidths
    simp only [chars, DateForm.mark, List.append_assoc, List.cons_append, List.nil_append]
    rw [takeCandidate?_hyphens hfirst (by omega) (hgroups isDigit_hyphen)]

/-- **A date is taken where a well-formed one stands and no word character follows it.** -/
theorem take?_eq_some_iff {cs rest : List Char} {d : WrittenDate} :
    take? cs = some (d, rest) ↔
      d.isWellFormed = true ∧ startsWithWordChar rest = false ∧ cs = d.chars ++ rest := by
  simp only [take?, Option.filter_eq_some_iff, Bool.and_eq_true, Bool.not_eq_true']
  constructor
  · rintro ⟨h, hd, hrest⟩
    exact ⟨hd, hrest, chars_append_of_takeCandidate? h⟩
  · rintro ⟨hd, hrest, rfl⟩
    exact ⟨takeCandidate?_chars_append hd hrest, hd, hrest⟩

/-! ## The characters of a date -/

theorem exists_cons {d : WrittenDate} (h : d.isWellFormed = true) :
    ∃ c cs, d.chars = c :: cs ∧ isDigit c = true := by
  obtain ⟨hfirst, -, -, hwidths⟩ := isWellFormed_iff.1 h
  obtain ⟨form, first, second, third⟩ := d
  have hne : first ≠ [] := by
    rintro rfl
    cases form <;> simp [DateForm.hasWidths, DateForm.hasWidths.isShort] at hwidths
  obtain ⟨c, cs, rfl⟩ := List.exists_cons_of_ne_nil hne
  exact ⟨c, _, rfl, hfirst c List.mem_cons_self⟩

theorem mem_chars {d : WrittenDate} (h : d.isWellFormed = true) {c : Char} (hc : c ∈ d.chars) :
    isDigit c = true ∨ c = '/' ∨ c = '-' := by
  obtain ⟨hfirst, hsecond, hthird, -⟩ := isWellFormed_iff.1 h
  have hmark : ∀ c ∈ d.form.mark, c = '/' ∨ c = '-' := by
    cases d.form <;> simp [DateForm.mark]
  simp only [chars, List.mem_append] at hc
  rcases hc with (((hc | hc) | hc) | hc) | hc
  · exact .inl (hfirst c hc)
  · exact .inr (hmark c hc)
  · exact .inl (hsecond c hc)
  · exact .inr (hmark c hc)
  · exact .inl (hthird c hc)

end WrittenDate
end SearchFilter
