import SearchFilter.Proofs.Lexeme.Take

/-!
# Lexemes that nothing takes away

A lexeme that stands in a query is not always taken: a category that comes before its own may have a
longer one there, or one that starts alike.  The categories before it are ruled out one by one.

* `Lexeme.IsJoinedTo` says that a connective behind a lexeme makes it part of a longer one.
* `Lexeme.take?_chars_append`: a lexeme that is not joined to what follows is taken as it stands,
  if it does not start like a date without being one.
-/

set_option autoImplicit false

namespace SearchFilter

open Unicode

/-- Whether a connective joins a lexeme to what follows it: `TO` behind a date, `OR` behind a word
or a text in quotes. -/
def Lexeme.IsJoinedTo : Lexeme → List Char → Prop
  | date _, rest => (takeConnective? ['T', 'O'] rest).isSome = true
  | word _ _, rest | phrase _ _, rest => (takeConnective? ['O', 'R'] rest).isSome = true
  | _, _ => False

/-! ## Ruling out the categories before -/

section

variable {prev : Option Char} {rest : List Char}

theorem takeRange?_of_not_joined {d : WrittenDate} (hd : d.isWellFormed = true)
    (hrest : startsWithWordChar rest = false) (h : takeConnective? ['T', 'O'] rest = none) :
    Category.betweenDates.take? prev (d.chars ++ rest) = none := by
  have htake : WrittenDate.take? (d.chars ++ rest) = some (d, rest) :=
    WrittenDate.take?_eq_some_iff.2 ⟨hd, hrest, rfl⟩
  simp [Category.take?, takeRange?, htake, h]

theorem takeOrPair?_of_not_joined {t : Term} (ht : t.IsWellFormed) (hrest : t.EndsBefore rest)
    (h : takeConnective? ['O', 'R'] rest = none) :
    Category.orPair.take? prev (t.chars ++ rest) = none := by
  have htake : Term.take? (t.chars ++ rest) = some (t, rest) :=
    Term.take?_eq_some_iff.2 ⟨ht, hrest, rfl⟩
  simp [Category.take?, takeOrPair?, htake, h]

theorem ne_sign_of_isDigit {c : Char} (h : isDigit c = true) : c ≠ '<' ∧ c ≠ '>' := by
  constructor <;> rintro rfl <;> exact absurd h (by decide)

theorem ne_sign_of_opensWith {c : Char}
    (h : Category.orPair.opensWith c = true ∨ Category.word.opensWith c = true) :
    c ≠ '<' ∧ c ≠ '>' := by
  constructor <;> rintro rfl <;> exact absurd h (by decide +kernel)

/-- An empty text in quotes is no term. -/
theorem takeOrPair?_empty_quotes : Category.orPair.take? prev ('"' :: '"' :: rest) = none := by
  simp [Category.take?, takeOrPair?, Term.take?, takeQuoted?]

theorem takeWord?_hyphen_quote : Category.word.take? prev ('-' :: '"' :: rest) = none := by
  simp [Category.take?, takeDash, takeWord?, startsWithWordChar, isWordChar_quote]

/-- No date starts with the second character of a sign, whatever blanks stand before it. -/
theorem head?_gap_append_ne_equals {gap : List Char} {d : WrittenDate}
    (hgap : ∀ c ∈ gap, isBlank c = true) (hd : d.isWellFormed = true) (rest : List Char) :
    (gap ++ (d.chars ++ rest)).head? ≠ some '=' := by
  cases gap with
  | nil =>
    obtain ⟨c, cs, hcs, hc⟩ := d.exists_cons hd
    rw [List.nil_append, hcs, List.cons_append, List.head?_cons, ne_eq, Option.some.injEq]
    rintro rfl
    exact absurd hc (by decide)
  | cons c gap =>
    rw [List.cons_append, List.head?_cons, ne_eq, Option.some.injEq]
    rintro rfl
    exact absurd (hgap _ List.mem_cons_self) (by decide)

/-- Of two signs that begin alike the longer one comes first. -/
theorem takeCompared?_of_mem_before {comparison : Comparison} {gap : List Char} {d : WrittenDate}
    (hgap : ∀ c ∈ gap, isBlank c = true) (hd : d.isWellFormed = true) {κ : Category}
    (hκ : κ ∈ (Category.comparedDate comparison).before) :
    κ.take? prev ((Lexeme.comparedDate comparison gap d).chars ++ rest) = none := by
  have hhead := head?_gap_append_ne_equals hgap hd rest
  have hequals : ∀ c, dropLead? [c, '='] (c :: (gap ++ (d.chars ++ rest))) = none := by
    intro c
    rw [Option.eq_none_iff_forall_ne_some]
    intro cs hcs
    have hcs := (List.cons.inj (dropLead?_eq_some_iff.1 hcs)).2
    exact hhead (by rw [hcs]; rfl)
  have hchars : (Lexeme.comparedDate comparison gap d).chars ++ rest =
      comparison.sign ++ (gap ++ (d.chars ++ rest)) := by simp [Lexeme.chars]
  rw [hchars]
  cases comparison with
  | atLeast =>
    obtain rfl : κ = .betweenDates := List.mem_singleton.1 hκ
    exact Category.take?_eq_none (by decide) _ _
  | atMost =>
    have hκ : κ ∈ [.betweenDates, .comparedDate .atLeast] := hκ
    simp only [List.mem_cons, List.not_mem_nil, or_false] at hκ
    rcases hκ with rfl | rfl <;> exact Category.take?_eq_none (by decide) _ _
  | moreThan =>
    have hκ : κ ∈ [.betweenDates, .comparedDate .atLeast, .comparedDate .atMost] := hκ
    simp only [List.mem_cons, List.not_mem_nil, or_false] at hκ
    rcases hκ with rfl | rfl | rfl
    · exact Category.take?_eq_none (by decide) _ _
    · simp [Category.take?, takeCompared?, Comparison.sign, hequals]
    · exact Category.take?_eq_none (by decide) _ _
  | lessThan =>
    have hκ : κ ∈ [.betweenDates, .comparedDate .atLeast, .comparedDate .atMost,
      .comparedDate .moreThan] := hκ
    simp only [List.mem_cons, List.not_mem_nil, or_false] at hκ
    rcases hκ with rfl | rfl | rfl | rfl
    · exact Category.take?_eq_none (by decide) _ _
    · exact Category.take?_eq_none (by decide) _ _
    · simp [Category.take?, takeCompared?, Comparison.sign, hequals]
    · exact Category.take?_eq_none (by decide) _ _

/-- The categories before those that are not dated are the dated ones, and then each other. -/
theorem Category.take?_eq_none_of_mem_before {κ : Category} {c : Char} {cs : List Char}
    (hκ : κ ∈ Category.orPair.before) (hdigit : isDigit c = false) (hsign : c ≠ '<' ∧ c ≠ '>') :
    κ.take? prev (c :: cs) = none := by
  have hκ : κ ∈ [.betweenDates, .comparedDate .atLeast, .comparedDate .atMost,
    .comparedDate .moreThan, .comparedDate .lessThan, .asOfDate] := hκ
  refine take?_eq_none ?_ prev cs
  simp only [List.mem_cons, List.not_mem_nil, or_false] at hκ
  rcases hκ with rfl | rfl | rfl | rfl | rfl | rfl <;>
    simp [opensWith, Comparison.sign, hdigit, Ne.symm hsign.1, Ne.symm hsign.2]

end

/-! ## Taking what stands there -/

/-- **A lexeme that is not joined to what follows is taken as it stands**, if none but a date starts
with a digit. -/
theorem Lexeme.take?_chars_append {prev : Option Char} {rest : List Char} {l : Lexeme}
    (hwf : l.IsWellFormed) (hprev : l.MayFollow prev) (hrest : l.EndsBefore rest)
    (hdigit : l.category.isDated = false → ∀ c ∈ l.chars.head?, isDigit c = false)
    (hjoined : ¬l.IsJoinedTo rest) : take? prev (l.chars ++ rest) = some (l, rest) := by
  refine take?_eq_some_iff.2
    ⟨Category.take?_eq_some_iff.2 ⟨rfl, hprev, hwf, hrest, rfl⟩, fun κ hκ ↦ ?_⟩
  cases l with
  | dateRange first gap gap' last => exact absurd hκ List.not_mem_nil
  | comparedDate comparison gap d => exact takeCompared?_of_mem_before hwf.1 hwf.2 hκ
  | date d =>
    have hκ : κ ∈ [.betweenDates, .comparedDate .atLeast, .comparedDate .atMost,
      .comparedDate .moreThan, .comparedDate .lessThan] := hκ
    simp only [List.mem_cons, List.not_mem_nil, or_false] at hκ
    obtain ⟨c, cs, hcs, hc⟩ := d.exists_cons hwf
    have hsign := ne_sign_of_isDigit hc
    rcases hκ with rfl | rfl | rfl | rfl | rfl
    · exact takeRange?_of_not_joined hwf hrest (Option.not_isSome_iff_eq_none.1 hjoined)
    all_goals
      rw [chars, hcs]
      refine Category.take?_eq_none ?_ _ _
      simp [Category.opensWith, Comparison.sign, Ne.symm hsign.1, Ne.symm hsign.2]
  | orPair left gap gap' right =>
    obtain ⟨c, cs, hcs, hopen⟩ := exists_cons hwf
    have hd : isDigit c = false := hdigit rfl c (by rw [hcs]; rfl)
    have hsign := ne_sign_of_opensWith (.inl hopen)
    rw [hcs]
    exact Category.take?_eq_none_of_mem_before hκ hd hsign
  | word negated w =>
    obtain ⟨c, cs, hcs, hopen⟩ := exists_cons hwf
    have hd : isDigit c = false := hdigit rfl c (by rw [hcs]; rfl)
    have hsign := ne_sign_of_opensWith (.inr hopen)
    have hκ : κ ∈ Category.orPair.before ++ [.orPair] := hκ
    rcases List.mem_append.1 hκ with hκ | hκ
    · rw [hcs]
      exact Category.take?_eq_none_of_mem_before hκ hd hsign
    · obtain rfl := List.mem_singleton.1 hκ
      cases negated with
      | true => exact Category.take?_eq_none (by decide +kernel) _ _
      | false =>
        exact takeOrPair?_of_not_joined (t := .word w) hwf hrest
          (Option.not_isSome_iff_eq_none.1 hjoined)
  | phrase negated content =>
    have hκ : κ ∈ Category.orPair.before ++ [.orPair, .word] := hκ
    rcases List.mem_append.1 hκ with hbefore | hlast
    · cases negated <;>
        exact Category.take?_eq_none_of_mem_before hbefore (by decide) (by decide)
    · simp only [List.mem_cons, List.not_mem_nil, or_false] at hlast
      cases negated with
      | true =>
        rcases hlast with rfl | rfl
        · exact Category.take?_eq_none (by decide +kernel) _ _
        · exact takeWord?_hyphen_quote
      | false =>
        rcases hlast with rfl | rfl
        · by_cases hne : content = []
          · rw [hne]
            exact takeOrPair?_empty_quotes
          · exact takeOrPair?_of_not_joined (t := .quoted content) ⟨hne, hwf⟩ trivial
              (Option.not_isSome_iff_eq_none.1 hjoined)
        · exact Category.take?_eq_none (by decide +kernel) _ _

end SearchFilter
