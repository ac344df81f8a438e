import SearchFilter.Token
import SearchFilter.Proofs.Lexeme.Take

/-!
# What cleaning leaves

`clean` takes characters away, one kind after the other, and each of the two later steps looks at
the character before.  Cut in two, a text is cleaned in two parts, the second in the state in which
the first one leaves it (`dropDashes_append`, `collapseSpaces_append`).

* `clean_sublist`, `filter_clean`: nothing is added, and only marks are taken away.
* `quote_not_mem_clean`, `not_infix_clean`: no double quote is left, nor two spaces in a row.
* `cleanFrom` is cleaning from the middle of a text on; `cleanFrom_solid` and `cleanFrom_gap` follow
  it through the parts of a lexeme.
* `clean_chars_word`, `clean_chars_orPair` and `clean_chars_of_isDated`: what is left of words, of
  pairs and of dates.
-/

set_option autoImplicit false

namespace SearchFilter

open Unicode

/-! ## Cleaning in two parts -/

/-- Whether a space stands at the end of a text, or before it if the text is empty. -/
def endsInSpace (before : Bool) (cs : List Char) : Bool :=
  cs.getLast?.elim before (· == ' ')

@[simp]
theorem endsInSpace_nil (before : Bool) : endsInSpace before [] = before := rfl

@[simp]
theorem endsInSpace_cons (before : Bool) (c : Char) (cs : List Char) :
    endsInSpace before (c :: cs) = endsInSpace (c == ' ') cs := by
  cases h : cs.getLast? <;> simp [endsInSpace, List.getLast?_cons, h]

theorem endsInSpace_append (before : Bool) (xs ys : List Char) :
    endsInSpace before (xs ++ ys) = endsInSpace (endsInSpace before xs) ys := by
  induction xs generalizing before with
  | nil => rfl
  | cons x xs ih => rw [List.cons_append, endsInSpace_cons, endsInSpace_cons, ih]

theorem endsInSpace_false (cs : List Char) :
    endsInSpace false cs = (cs.getLast? == some ' ') := by
  cases h : cs.getLast? <;> simp [endsInSpace, h]

theorem endsInSpace_eq_of_ne_nil {cs : List Char} (h : cs ≠ []) (before : Bool) :
    endsInSpace before cs = (cs.getLast? == some ' ') := by
  rw [endsInSpace, List.getLast?_eq_some_getLast h]
  simp

theorem dropDashes_append (atWord : Bool) (xs ys : List Char) :
    dropDashes atWord (xs ++ ys) =
      dropDashes atWord xs ++ dropDashes (endsInSpace atWord xs) ys := by
  induction xs generalizing atWord with
  | nil => rfl
  | cons x xs ih =>
    rw [List.cons_append, dropDashes, dropDashes, endsInSpace_cons]
    split
    · next h =>
      rw [Bool.and_eq_true, beq_iff_eq] at h
      rw [ih, h.2]
      rfl
    · rw [ih, List.cons_append]

theorem collapseSpaces_append (inRun : Bool) (xs ys : List Char) :
    collapseSpaces inRun (xs ++ ys) =
      collapseSpaces inRun xs ++ collapseSpaces (endsInSpace inRun xs) ys := by
  induction xs generalizing inRun with
  | nil => rfl
  | cons x xs ih =>
    rw [List.cons_append, collapseSpaces, collapseSpaces, endsInSpace_cons]
    split
    · next h =>
      rw [Bool.and_eq_true, beq_iff_eq] at h
      rw [ih, h.2]
      rfl
    · rw [ih, List.cons_append]

/-- Of a run of spaces one is left, so a text ends in a space as it did. -/
theorem endsInSpace_collapseSpaces (inRun : Bool) (cs : List Char) :
    endsInSpace inRun (collapseSpaces inRun cs) = endsInSpace inRun cs := by
  induction cs generalizing inRun with
  | nil => rfl
  | cons c cs ih =>
    rw [collapseSpaces]
    split
    · next h =>
      rw [Bool.and_eq_true] at h
      rw [endsInSpace_cons, h.1, h.2, ih]
    · rw [endsInSpace_cons, endsInSpace_cons, ih]

/-! ## What is taken away -/

theorem dropDashes_sublist (atWord : Bool) (cs : List Char) :
    (dropDashes atWord cs).Sublist cs := by
  induction cs generalizing atWord with
  | nil => exact .slnil
  | cons c cs ih =>
    rw [dropDashes]
    split
    · exact .cons _ (ih _)
    · exact .cons_cons _ (ih _)

theorem collapseSpaces_sublist (inRun : Bool) (cs : List Char) :
    (collapseSpaces inRun cs).Sublist cs := by
  induction cs generalizing inRun with
  | nil => exact .slnil
  | cons c cs ih =>
    rw [collapseSpaces]
    split
    · exact .cons _ (ih _)
    · exact .cons_cons _ (ih _)

/-- **Cleaning adds nothing and keeps the order.** -/
theorem clean_sublist (cs : List Char) : (clean cs).Sublist cs :=
  (collapseSpaces_sublist _ _).trans ((dropDashes_sublist _ _).trans List.filter_sublist)

theorem filter_dropDashes {p : Char → Bool} (hp : p '-' = false) (atWord : Bool) (cs : List Char) :
    (dropDashes atWord cs).filter p = cs.filter p := by
  induction cs generalizing atWord with
  | nil => rfl
  | cons c cs ih =>
    rw [dropDashes]
    split
    · next h =>
      rw [Bool.and_eq_true, beq_iff_eq] at h
      rw [ih, List.filter_cons_of_neg (by simp [h.2, hp])]
    · rw [List.filter_cons, List.filter_cons, ih]

theorem filter_collapseSpaces {p : Char → Bool} (hp : p ' ' = false) (inRun : Bool)
    (cs : List Char) : (collapseSpaces inRun cs).filter p = cs.filter p := by
  induction cs generalizing inRun with
  | nil => rfl
  | cons c cs ih =>
    rw [collapseSpaces]
    split
    · next h =>
      rw [Bool.and_eq_true, beq_iff_eq] at h
      rw [ih, List.filter_cons_of_neg (by simp [h.2, hp])]
    · rw [List.filter_cons, List.filter_cons, ih]

/-- **Cleaning takes nothing away but quotes, hyphens and spaces.** -/
theorem filter_clean {p : Char → Bool} (hquote : p '"' = false) (hhyphen : p '-' = false)
    (hspace : p ' ' = false) (cs : List Char) : (clean cs).filter p = cs.filter p := by
  rw [clean, filter_collapseSpaces hspace, filter_dropDashes hhyphen, List.filter_filter]
  refine List.filter_congr fun c _ ↦ ?_
  by_cases hc : c = '"'
  · rw [hc, hquote, Bool.false_and]
  · simp [hc]

theorem filter_isWordChar_clean (cs : List Char) :
    (clean cs).filter isWordChar = cs.filter isWordChar :=
  filter_clean isWordChar_quote isWordChar_hyphen isWordChar_space cs

/-! ## What is left -/

theorem clean_ne_space {cs : List Char} (h : ∃ c ∈ cs, isWordChar c = true) : clean cs ≠ [' '] := by
  obtain ⟨c, hc, hword⟩ := h
  intro hclean
  have hmem : c ∈ (clean cs).filter isWordChar := by
    rw [filter_isWordChar_clean]
    exact List.mem_filter.2 ⟨hc, hword⟩
  obtain rfl : c = ' ' := by simpa [hclean] using (List.mem_filter.1 hmem).1
  exact Bool.false_ne_true (isWordChar_space.symm.trans hword)

theorem quote_not_mem_clean (cs : List Char) : '"' ∉ clean cs := by
  intro h
  have hmem := ((collapseSpaces_sublist _ _).trans (dropDashes_sublist _ _)).mem h
  simp at hmem

theorem head?_collapseSpaces_true (cs : List Char) : (collapseSpaces true cs).head? ≠ some ' ' := by
  induction cs with
  | nil => simp [collapseSpaces]
  | cons c cs ih =>
    rw [collapseSpaces]
    split
    · exact ih
    · next h => simpa using h

theorem not_infix_collapseSpaces (inRun : Bool) (cs : List Char) :
    ¬[' ', ' '] <:+: collapseSpaces inRun cs := by
  induction cs generalizing inRun with
  | nil => simp [collapseSpaces]
  | cons c cs ih =>
    rw [collapseSpaces]
    split
    · exact ih _
    · rw [List.infix_cons_iff, List.cons_prefix_cons]
      rintro (⟨rfl, rest, hrest⟩ | hinf)
      · have hhead : (collapseSpaces true cs).head? = some ' ' := hrest ▸ rfl
        exact head?_collapseSpaces_true cs hhead
      · exact ih _ hinf

/-- **No two spaces in a row are left.** -/
theorem not_infix_clean (cs : List Char) : ¬[' ', ' '] <:+: clean cs :=
  not_infix_collapseSpaces _ _

/-! ## Cleaning from the middle of a text on -/

/-- The rest of a text as cleaning leaves it.  `atWord` and `inRun` say how what is before the rest
was left by the two later steps. -/
def cleanFrom (atWord inRun : Bool) (cs : List Char) : List Char :=
  collapseSpaces inRun (dropDashes atWord (cs.filter (· != '"')))

theorem clean_eq_cleanFrom (cs : List Char) : clean cs = cleanFrom true false cs := rfl

@[simp]
theorem cleanFrom_nil (atWord inRun : Bool) : cleanFrom atWord inRun [] = [] := rfl

theorem cleanFrom_hyphen (inRun : Bool) (cs : List Char) :
    cleanFrom true inRun ('-' :: cs) = cleanFrom false inRun cs := rfl

theorem cleanFrom_cons {c : Char} {atWord : Bool} (hquote : c ≠ '"') (hspace : c ≠ ' ')
    (hdash : atWord = false ∨ c ≠ '-') (inRun : Bool) (cs : List Char) :
    cleanFrom atWord inRun (c :: cs) = c :: cleanFrom false false cs := by
  have hfilter : (c :: cs).filter (· != '"') = c :: cs.filter (· != '"') :=
    List.filter_cons_of_pos (bne_iff_ne.2 hquote)
  have hs : (c == ' ') = false := beq_eq_false_iff_ne.2 hspace
  have hd : (atWord && c == '-') = false := by
    rcases hdash with rfl | hd
    · rfl
    · rw [beq_eq_false_iff_ne.2 hd, Bool.and_false]
  rw [cleanFrom, hfilter, dropDashes, if_neg (by simp [hd]), hs, collapseSpaces,
    if_neg (by simp [hs]), hs, cleanFrom]

/-- An ordinary character cuts a text into two parts that are cleaned apart. -/
theorem cleanFrom_append_cons {c : Char} (hquote : c ≠ '"') (hspace : c ≠ ' ') (hdash : c ≠ '-')
    (atWord inRun : Bool) (xs ys : List Char) :
    cleanFrom atWord inRun (xs ++ c :: ys) =
      cleanFrom atWord inRun xs ++ c :: cleanFrom false false ys := by
  have hcons : ∀ a r, cleanFrom a r (c :: ys) = c :: cleanFrom false false ys :=
    fun _ r ↦ cleanFrom_cons hquote hspace (.inr hdash) r ys
  simp only [cleanFrom] at hcons ⊢
  rw [List.filter_append, dropDashes_append, collapseSpaces_append, hcons]

/-- A part of a text that cleaning leaves alone: it has no space or quote in it and does not start
with a hyphen. -/
structure IsSolid (cs : List Char) : Prop where
  ne_nil : cs ≠ []
  head_ne : cs.head? ≠ some '-'
  space_not_mem : ' ' ∉ cs
  quote_not_mem : '"' ∉ cs

theorem cleanFrom_false_append {xs : List Char} (hspace : ' ' ∉ xs) (hquote : '"' ∉ xs)
    (ys : List Char) : cleanFrom false false (xs ++ ys) = xs ++ cleanFrom false false ys := by
  induction xs with
  | nil => rfl
  | cons x xs ih =>
    rw [List.mem_cons, not_or] at hspace hquote
    rw [List.cons_append, cleanFrom_cons (Ne.symm hquote.1) (Ne.symm hspace.1) (.inl rfl),
      ih hspace.2 hquote.2, List.cons_append]

theorem cleanFrom_solid {xs : List Char} (h : IsSolid xs) (atWord inRun : Bool) (ys : List Char) :
    cleanFrom atWord inRun (xs ++ ys) = xs ++ cleanFrom false false ys := by
  obtain ⟨hne, hhead, hspace, hquote⟩ := h
  obtain ⟨x, xs, rfl⟩ := List.exists_cons_of_ne_nil hne
  rw [List.mem_cons, not_or] at hspace hquote
  have hdash : x ≠ '-' := by simpa using hhead
  rw [List.cons_append, cleanFrom_cons (Ne.symm hquote.1) (Ne.symm hspace.1) (.inr hdash),
    cleanFrom_false_append hspace.2 hquote.2, List.cons_append]

theorem dropDashes_eq_self {cs : List Char} (h : '-' ∉ cs) (atWord : Bool) :
    dropDashes atWord cs = cs := by
  induction cs generalizing atWord with
  | nil => rfl
  | cons c cs ih =>
    rw [List.mem_cons, not_or] at h
    rw [dropDashes, if_neg (by simp [Ne.symm h.1]), ih h.2]

/-- Of a gap only surplus spaces are taken away. -/
theorem cleanFrom_gap {gap : List Char} (h : ∀ c ∈ gap, isBlank c = true) (atWord inRun : Bool)
    (cs : List Char) :
    cleanFrom atWord inRun (gap ++ cs) =
      collapseSpaces inRun gap ++
        cleanFrom (endsInSpace atWord gap) (endsInSpace inRun gap) cs := by
  have hquote : gap.filter (· != '"') = gap := by
    refine List.filter_eq_self.2 fun c hc ↦ bne_iff_ne.2 ?_
    rintro rfl
    exact absurd (h _ hc) (by decide)
  have hdash : '-' ∉ gap := fun hc ↦ absurd (h _ hc) (by decide)
  rw [cleanFrom, List.filter_append, hquote, dropDashes_append, collapseSpaces_append,
    dropDashes_eq_self hdash, cleanFrom]

/-- A gap behind a text is cleaned as one that goes on with what is left of the text. -/
theorem clean_append_gap {gap : List Char} (h : ∀ c ∈ gap, isBlank c = true) (cs : List Char) :
    clean (cs ++ gap) = clean cs ++ collapseSpaces (endsInSpace false (clean cs)) gap := by
  have hgap : ∀ a r, cleanFrom a r gap = collapseSpaces r gap := fun a r ↦ by
    simpa using cleanFrom_gap h a r []
  rw [clean, clean, endsInSpace_collapseSpaces, List.filter_append, dropDashes_append,
    collapseSpaces_append, ← hgap, cleanFrom]

/-- A text with a gap behind it ends in a space when the gap does. -/
theorem getLast?_clean_append_gap {gap : List Char} (h : IsGap gap) (cs : List Char) :
    (clean (cs ++ gap)).getLast? = some ' ' ↔ gap.getLast? = some ' ' := by
  have hlast : endsInSpace false (clean (cs ++ gap)) = (gap.getLast? == some ' ') := by
    rw [clean_append_gap h.2, endsInSpace_append, endsInSpace_collapseSpaces,
      endsInSpace_eq_of_ne_nil h.1]
  rw [endsInSpace_false] at hlast
  simpa only [beq_iff_eq] using Bool.eq_iff_iff.1 hlast

/-- A gap before a text is cleaned on its own. -/
theorem clean_gap_append {gap : List Char} (h : IsGap gap) (cs : List Char) :
    clean (gap ++ cs) = collapseSpaces false gap ++
      cleanFrom (gap.getLast? == some ' ') (gap.getLast? == some ' ') cs := by
  rw [clean_eq_cleanFrom, cleanFrom_gap h.2, endsInSpace_eq_of_ne_nil h.1,
    endsInSpace_eq_of_ne_nil h.1]

theorem head?_clean_gap_append {gap : List Char} (h : IsGap gap) (cs : List Char) :
    (clean (gap ++ cs)).head? = gap.head? := by
  rw [clean_gap_append h]
  obtain ⟨c, gap, rfl⟩ := List.exists_cons_of_ne_nil h.1
  simp [collapseSpaces]

/-! ## The parts of a lexeme -/

theorem IsWord.isSolid {w : List Char} (h : IsWord w) : IsSolid w := by
  have hmem : ∀ c, isWordChar c = false → isJoiner c = false → c ∉ w := fun c hc hj hm ↦
    (h.mem hm).elim (fun hw ↦ Bool.false_ne_true (hc.symm.trans hw))
      fun hw ↦ Bool.false_ne_true (hj.symm.trans hw)
  refine ⟨h.ne_nil, ?_, hmem _ isWordChar_space (by decide), hmem _ isWordChar_quote (by decide)⟩
  simpa using h.head?_append_ne_hyphen []

theorem WrittenDate.isSolid {d : WrittenDate} (h : d.isWellFormed = true) : IsSolid d.chars := by
  have hmem : ∀ c, isDigit c = false → c ≠ '/' → c ≠ '-' → c ∉ d.chars := by
    intro c hd hs hh hm
    rcases d.mem_chars h hm with hc | hc | hc
    · exact Bool.false_ne_true (hd.symm.trans hc)
    · exact hs hc
    · exact hh hc
  obtain ⟨c, cs, hcs, hc⟩ := d.exists_cons h
  refine ⟨by simp [hcs], ?_, hmem _ (by decide) (by decide) (by decide),
    hmem _ (by decide) (by decide) (by decide)⟩
  rw [hcs, List.head?_cons, ne_eq, Option.some.injEq]
  rintro rfl
  exact absurd hc (by decide)

/-- **Of a word only its negation is taken away.** -/
theorem clean_chars_word {w : List Char} (h : IsWord w) (negated : Bool) :
    clean (Lexeme.word negated w).chars = w := by
  have hword := cleanFrom_solid h.isSolid
  cases negated with
  | true =>
    rw [clean_eq_cleanFrom, Lexeme.chars, Lexeme.dash, if_pos rfl, List.singleton_append,
      cleanFrom_hyphen]
    simpa using hword false false []
  | false => simpa [clean_eq_cleanFrom, Lexeme.chars, Lexeme.dash] using hword true false []

/-- **The two sides of a pair are cleaned apart**, each with its own gap. -/
theorem clean_chars_orPair {left right : Term} {gap gap' : List Char} (h : IsGap gap') :
    clean (Lexeme.orPair left gap gap' right).chars =
      clean (left.chars ++ gap) ++ 'O' :: 'R' :: clean (gap' ++ right.chars) := by
  have hchars : (Lexeme.orPair left gap gap' right).chars =
      (left.chars ++ gap) ++ 'O' :: 'R' :: (gap' ++ right.chars) := by simp [Lexeme.chars]
  rw [hchars, clean_eq_cleanFrom, cleanFrom_append_cons (by decide) (by decide) (by decide),
    cleanFrom_cons (by decide) (by decide) (.inl rfl), clean_gap_append h, cleanFrom_gap h.2,
    endsInSpace_eq_of_ne_nil h.1, clean_eq_cleanFrom]

/-- A dated lexeme as cleaning leaves it: with one space for each run of spaces in its gaps. -/
def Lexeme.tidy : Lexeme → Lexeme
  | dateRange first gap gap' last =>
    dateRange first (collapseSpaces false gap) (collapseSpaces false gap') last
  | comparedDate comparison gap d => comparedDate comparison (collapseSpaces false gap) d
  | l => l

@[simp]
theorem Lexeme.category_tidy (l : Lexeme) : l.tidy.category = l.category := by
  cases l <;> rfl

theorem isGap_collapseSpaces {gap : List Char} (h : IsGap gap) :
    IsGap (collapseSpaces false gap) := by
  refine ⟨?_, fun c hc ↦ h.2 c ((collapseSpaces_sublist _ _).mem hc)⟩
  obtain ⟨c, cs, rfl⟩ := List.exists_cons_of_ne_nil h.1
  simp [collapseSpaces]

theorem Lexeme.isWellFormed_tidy {l : Lexeme} (h : l.IsWellFormed) : l.tidy.IsWellFormed := by
  cases l with
  | dateRange first gap gap' last =>
    obtain ⟨hfirst, hlast, hstyle, hgap, hgap'⟩ := h
    exact ⟨hfirst, hlast, hstyle, isGap_collapseSpaces hgap, isGap_collapseSpaces hgap'⟩
  | comparedDate comparison gap d =>
    exact ⟨fun c hc ↦ h.1 c ((collapseSpaces_sublist _ _).mem hc), h.2⟩
  | _ => exact h

/-- **Dates are left as they are**, the gaps beside them with their surplus of spaces taken away. -/
theorem clean_chars_of_isDated {l : Lexeme} (hl : l.category.isDated = true)
    (h : l.IsWellFormed) : clean l.chars = l.tidy.chars := by
  have hdate : ∀ {d : WrittenDate} (a r : Bool), d.isWellFormed = true →
      cleanFrom a r d.chars = d.chars := fun a r hd ↦ by
    simpa using cleanFrom_solid (WrittenDate.isSolid hd) a r []
  cases l with
  | dateRange first gap gap' last =>
    obtain ⟨hfirst, hlast, -, hgap, hgap'⟩ := h
    have hto : IsSolid ['T', 'O'] := ⟨by simp, by simp, by simp, by simp⟩
    simp only [clean_eq_cleanFrom, Lexeme.tidy, Lexeme.chars, List.append_assoc]
    rw [cleanFrom_solid (WrittenDate.isSolid hfirst), cleanFrom_gap hgap.2, cleanFrom_solid hto,
      cleanFrom_gap hgap'.2, hdate _ _ hlast]
  | comparedDate comparison gap d =>
    have hsign : IsSolid comparison.sign := by
      cases comparison <;> exact ⟨by simp [Comparison.sign], by simp [Comparison.sign],
        by simp [Comparison.sign], by simp [Comparison.sign]⟩
    simp only [clean_eq_cleanFrom, Lexeme.tidy, Lexeme.chars, List.append_assoc]
    rw [cleanFrom_solid hsign, cleanFrom_gap h.1, hdate _ _ h.2]
  | date d => exact hdate _ _ h
  | _ => exact absurd hl (by simp [Lexeme.category, Category.isDated])

end SearchFilter
