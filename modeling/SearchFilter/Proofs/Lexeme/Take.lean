import SearchFilter.Proofs.Lexeme.Date

/-!
# Which lexeme is taken

A lexeme has a shape (`Lexeme.IsWellFormed`), it asks something of the character before it
(`Lexeme.MayFollow`) and something of the text behind it (`Lexeme.EndsBefore`).  These three decide
what is taken for a category; the order of the categories decides the rest.

* `Category.take?_eq_some_iff`: what is taken for one category.
* `Lexeme.take?_eq_some_iff`: what is taken at all.
* `Category.opensWith` and `Category.take?_eq_none`: with which characters a lexeme of a category
  can start, by which most categories are ruled out at once.
-/

set_option autoImplicit false

namespace SearchFilter

open Unicode

/-! ## The shape of a lexeme -/

/-- Whether the lexemes of a category name dates. -/
def Category.isDated : Category → Bool
  | betweenDates | comparedDate _ | asOfDate => true
  | orPair | word | string => false

theorem Category.exists_operator_of_isDated {category : Category} (h : category.isDated = true) :
    ∃ op, category.operator? = some op ∧ op.isDate = true := by
  cases category with
  | betweenDates => exact ⟨_, rfl, rfl⟩
  | comparedDate comparison => exact ⟨_, rfl, rfl⟩
  | asOfDate => exact ⟨_, rfl, rfl⟩
  | _ => exact absurd h Bool.false_ne_true

namespace Lexeme

/-- The shape of a lexeme: which of the texts that it could hold it may hold. -/
def IsWellFormed : Lexeme → Prop
  | dateRange first gap gap' last =>
    first.isWellFormed = true ∧ last.isWellFormed = true ∧ first.form.style = last.form.style ∧
      IsGap gap ∧ IsGap gap'
  | comparedDate _ gap d => (∀ c ∈ gap, isBlank c = true) ∧ d.isWellFormed = true
  | date d => d.isWellFormed = true
  | orPair left gap gap' right =>
    left.IsWellFormed ∧ right.IsWellFormed ∧ IsGap gap ∧ IsGap gap'
  | word _ w => IsWord w
  | phrase _ content => '"' ∉ content

/-- Whether a lexeme ends where a text begins. -/
def EndsBefore : Lexeme → List Char → Prop
  | dateRange .., rest | comparedDate .., rest | date _, rest => startsWithWordChar rest = false
  | orPair _ _ _ right, rest => right.EndsBefore rest
  | word _ _, rest => continuesWord rest = false
  | phrase _ _, _ => True

/-- Whether a lexeme may stand behind a character. -/
def MayFollow : Lexeme → Option Char → Prop
  | dateRange .., prev | date _, prev => dateMayFollow prev = true
  | _, _ => True

@[simp]
theorem endsBefore_nil (l : Lexeme) : l.EndsBefore [] := by
  cases l with
  | orPair left gap gap' right =>
    cases right with
    | word w => rfl
    | quoted content => trivial
  | phrase negated content => trivial
  | _ => rfl

@[simp]
theorem mayFollow_none (l : Lexeme) : l.MayFollow none := by
  cases l with
  | dateRange first gap gap' last => rfl
  | date d => rfl
  | _ => trivial

theorem isNegated_eq_false_of_isDated {l : Lexeme} (h : l.category.isDated = true) :
    l.isNegated = false := by
  cases l with
  | word negated w => exact absurd h Bool.false_ne_true
  | phrase negated content => exact absurd h Bool.false_ne_true
  | _ => rfl

end Lexeme

/-! ## The parts of a lexeme at their ends -/

theorem WrittenDate.startsWithBlank_chars_append {d : WrittenDate} (h : d.isWellFormed = true)
    (rest : List Char) : startsWithBlank (d.chars ++ rest) = false := by
  obtain ⟨c, cs, hcs, hc⟩ := d.exists_cons h
  rw [hcs]
  exact isBlank_eq_false_of_isDigit hc

theorem Term.exists_cons {t : Term} (h : t.IsWellFormed) :
    ∃ c cs, t.chars = c :: cs ∧ (isWordChar c = true ∨ c = '"') := by
  cases t with
  | word w =>
    obtain ⟨c, cs, rfl, hc⟩ := IsWord.exists_cons h
    exact ⟨c, cs, rfl, .inl hc⟩
  | quoted content => exact ⟨'"', _, rfl, .inr rfl⟩

theorem Term.startsWithBlank_chars_append {t : Term} (h : t.IsWellFormed) (rest : List Char) :
    startsWithBlank (t.chars ++ rest) = false := by
  obtain ⟨c, cs, hcs, hc⟩ := t.exists_cons h
  rw [hcs]
  rcases hc with hc | rfl
  · exact isBlank_eq_false_of_isWordChar hc
  · exact show isBlank '"' = false by decide

/-- What starts with a blank makes no date or word before it longer. -/
theorem startsWithWordChar_gap_append {gap : List Char} (h : IsGap gap) (rest : List Char) :
    startsWithWordChar (gap ++ rest) = false := by
  obtain ⟨c, cs, rfl⟩ := List.exists_cons_of_ne_nil h.1
  exact isWordChar_eq_false_of_isBlank (h.2 c List.mem_cons_self)

theorem continuesWord_of_startsWithBlank {cs : List Char} (h : startsWithBlank cs = true) :
    continuesWord cs = false := by
  cases cs with
  | nil => rfl
  | cons c cs =>
    have hj : isJoiner c = false := by
      refine Bool.eq_false_iff.2 fun hj ↦ ?_
      rw [startsWithBlank, List.head?_cons, Option.any_some, isBlank_eq_false_of_isJoiner hj] at h
      exact Bool.false_ne_true h
    simp [continuesWord, hj, isWordChar_eq_false_of_isBlank h]

theorem Term.endsBefore_gap_append (t : Term) {gap : List Char} (h : IsGap gap)
    (rest : List Char) : t.EndsBefore (gap ++ rest) := by
  cases t with
  | word w => exact continuesWord_of_startsWithBlank (startsWithBlank_append h rest)
  | quoted content => trivial

/-! ## Taking a lexeme of one category -/

theorem takeRange?_eq_some_iff {cs rest : List Char} {l : Lexeme} :
    takeRange? cs = some (l, rest) ↔
      l.category = .betweenDates ∧ l.IsWellFormed ∧ l.EndsBefore rest ∧ cs = l.chars ++ rest := by
  simp only [takeRange?, Option.bind_eq_bind, Option.bind_eq_some_iff, Prod.exists,
    WrittenDate.take?_eq_some_iff]
  constructor
  · rintro ⟨first, _, ⟨hfirst, hstop, rfl⟩, gap, gap', _, hcon, last, _, ⟨hlast, hend, rfl⟩, h⟩
    split at h
    · next hstyle =>
      simp only [Option.some.injEq, Prod.mk.injEq] at h
      obtain ⟨rfl, rfl⟩ := h
      obtain ⟨hgap, hgap', -, rfl⟩ := (takeConnective?_eq_some_iff (by decide)).1 hcon
      exact ⟨rfl, ⟨hfirst, hlast, hstyle, hgap, hgap'⟩, hend, by simp [Lexeme.chars]⟩
    · simp at h
  · rintro ⟨hl, hwf, hend, rfl⟩
    cases l with
    | dateRange first gap gap' last =>
      obtain ⟨hfirst, hlast, hstyle, hgap, hgap'⟩ := hwf
      refine ⟨first, gap ++ ['T', 'O'] ++ gap' ++ (last.chars ++ rest),
        ⟨hfirst, by simpa using startsWithWordChar_gap_append hgap _, by simp [Lexeme.chars]⟩,
        gap, gap', last.chars ++ rest, ?_, last, rest, ⟨hlast, hend, rfl⟩, by simp [hstyle]⟩
      exact (takeConnective?_eq_some_iff (by decide)).2
        ⟨hgap, hgap', WrittenDate.startsWithBlank_chars_append hlast rest, rfl⟩
    | _ => exact absurd hl (by simp [Lexeme.category])

theorem takeCompared?_eq_some_iff {comparison : Comparison} {cs rest : List Char} {l : Lexeme} :
    takeCompared? comparison cs = some (l, rest) ↔
      l.category = .comparedDate comparison ∧ l.IsWellFormed ∧ l.EndsBefore rest ∧
        cs = l.chars ++ rest := by
  simp only [takeCompared?, Option.bind_eq_bind, Option.bind_eq_some_iff, Prod.exists,
    WrittenDate.take?_eq_some_iff, dropLead?_eq_some_iff]
  constructor
  · rintro ⟨text, rfl, d, _, ⟨hd, hend, hrest⟩, h⟩
    simp only [Option.some.injEq, Prod.mk.injEq] at h
    obtain ⟨rfl, rfl⟩ := h
    have hblanks : takeBlanks text = ((takeBlanks text).1, (takeBlanks text).2) := rfl
    obtain ⟨hgap, -, htext⟩ := takeBlanks_eq_iff.1 hblanks
    refine ⟨rfl, ⟨hgap, hd⟩, hend, ?_⟩
    rw [hrest] at htext
    simpa [Lexeme.chars] using htext
  · rintro ⟨hl, hwf, hend, rfl⟩
    cases l with
    | comparedDate comparison' gap d =>
      obtain rfl : comparison' = comparison := by simpa [Lexeme.category] using hl
      have hblanks : takeBlanks (gap ++ (d.chars ++ rest)) = (gap, d.chars ++ rest) :=
        takeBlanks_eq_iff.2 ⟨hwf.1, d.startsWithBlank_chars_append hwf.2 rest, rfl⟩
      refine ⟨gap ++ (d.chars ++ rest), by simp [Lexeme.chars], d, rest,
        ⟨hwf.2, hend, by rw [hblanks]⟩, by rw [hblanks]⟩
    | _ => exact absurd hl (by simp [Lexeme.category])

theorem takeOrPair?_eq_some_iff {cs rest : List Char} {l : Lexeme} :
    takeOrPair? cs = some (l, rest) ↔
      l.category = .orPair ∧ l.IsWellFormed ∧ l.EndsBefore rest ∧ cs = l.chars ++ rest := by
  simp only [takeOrPair?, Option.bind_eq_bind, Option.bind_eq_some_iff, Prod.exists,
    Term.take?_eq_some_iff]
  constructor
  · rintro ⟨left, _, ⟨hleft, -, rfl⟩, gap, gap', _, hcon, right, _, ⟨hright, hend, rfl⟩, h⟩
    simp only [Option.some.injEq, Prod.mk.injEq] at h
    obtain ⟨rfl, rfl⟩ := h
    obtain ⟨hgap, hgap', -, rfl⟩ := (takeConnective?_eq_some_iff (by decide)).1 hcon
    exact ⟨rfl, ⟨hleft, hright, hgap, hgap'⟩, hend, by simp [Lexeme.chars]⟩
  · rintro ⟨hl, hwf, hend, rfl⟩
    cases l with
    | orPair left gap gap' right =>
      obtain ⟨hleft, hright, hgap, hgap'⟩ := hwf
      refine ⟨left, gap ++ ['O', 'R'] ++ gap' ++ (right.chars ++ rest),
        ⟨hleft, by simpa using left.endsBefore_gap_append hgap _, by simp [Lexeme.chars]⟩,
        gap, gap', right.chars ++ rest, ?_, right, rest, ⟨hright, hend, rfl⟩, rfl⟩
      exact (takeConnective?_eq_some_iff (by decide)).2
        ⟨hgap, hgap', right.startsWithBlank_chars_append hright rest, rfl⟩
    | _ => exact absurd hl (by simp [Lexeme.category])

/-- The hyphen is taken whenever there is one. -/
theorem takeDash_eq_iff {cs rest : List Char} {negated : Bool} :
    takeDash cs = (negated, rest) ↔
      cs = Lexeme.dash negated ++ rest ∧ (negated = false → rest.head? ≠ some '-') := by
  unfold takeDash
  constructor
  · intro h
    split at h <;> simp only [Prod.mk.injEq] at h <;> obtain ⟨rfl, rfl⟩ := h
    · exact ⟨rfl, by simp⟩
    · next hne =>
      refine ⟨rfl, fun _ hhead ↦ ?_⟩
      obtain ⟨cs, rfl⟩ := List.head?_eq_some_iff.1 hhead
      exact hne cs rfl
  · rintro ⟨rfl, hrest⟩
    cases negated with
    | true => rfl
    | false =>
      split
      · next heq => exact absurd (by rw [← List.nil_append rest]; exact congrArg _ heq) (hrest rfl)
      · rfl

theorem IsWord.head?_append_ne_hyphen {w : List Char} (h : IsWord w) (rest : List Char) :
    (w ++ rest).head? ≠ some '-' := by
  obtain ⟨c, cs, rfl, hc⟩ := h.exists_cons
  rw [List.cons_append, List.head?_cons, ne_eq, Option.some.injEq]
  rintro rfl
  exact Bool.false_ne_true (isWordChar_hyphen.symm.trans hc)

/-- **The lexeme that is taken for a category** is the one that stands there, whole. -/
theorem Category.take?_eq_some_iff {category : Category} {prev : Option Char}
    {cs rest : List Char} {l : Lexeme} :
    category.take? prev cs = some (l, rest) ↔
      l.category = category ∧ l.MayFollow prev ∧ l.IsWellFormed ∧ l.EndsBefore rest ∧
        cs = l.chars ++ rest := by
  cases category with
  | betweenDates =>
    rw [take?, Option.ite_none_right_eq_some, takeRange?_eq_some_iff]
    cases l <;> simp [Lexeme.category, Lexeme.MayFollow]
  | comparedDate comparison =>
    rw [take?, takeCompared?_eq_some_iff]
    cases l <;> simp [Lexeme.category, Lexeme.MayFollow]
  | asOfDate =>
    simp only [take?, Option.ite_none_right_eq_some, Option.map_eq_some_iff, Prod.exists,
      WrittenDate.take?_eq_some_iff, Prod.mk.injEq]
    cases l <;>
      simp [Lexeme.category, Lexeme.MayFollow, Lexeme.IsWellFormed, Lexeme.EndsBefore, Lexeme.chars]
  | orPair =>
    rw [take?, takeOrPair?_eq_some_iff]
    cases l <;> simp [Lexeme.category, Lexeme.MayFollow]
  | word =>
    have hdash : takeDash cs = ((takeDash cs).1, (takeDash cs).2) := rfl
    obtain ⟨hcs, -⟩ := takeDash_eq_iff.1 hdash
    simp only [take?, Option.map_eq_some_iff, Prod.exists, takeWord?_eq_some_iff, Prod.mk.injEq]
    constructor
    · rintro ⟨w, _, ⟨hw, hstop, hrest⟩, rfl, rfl⟩
      refine ⟨rfl, trivial, hw, hstop, ?_⟩
      rw [hrest] at hcs
      simpa [Lexeme.chars] using hcs
    · rintro ⟨hl, -, hw, hstop, rfl⟩
      cases l with
      | word negated w =>
        have htake : takeDash ((Lexeme.word negated w).chars ++ rest) = (negated, w ++ rest) :=
          takeDash_eq_iff.2 ⟨by simp [Lexeme.chars], fun _ ↦ IsWord.head?_append_ne_hyphen hw rest⟩
        exact ⟨w, rest, ⟨hw, hstop, by rw [htake]⟩, by rw [htake], rfl⟩
      | _ => exact absurd hl (by simp [Lexeme.category])
  | string =>
    have hdash : takeDash cs = ((takeDash cs).1, (takeDash cs).2) := rfl
    obtain ⟨hcs, -⟩ := takeDash_eq_iff.1 hdash
    simp only [take?, Option.map_eq_some_iff, Prod.exists, takeQuoted?_eq_some_iff, Prod.mk.injEq]
    constructor
    · rintro ⟨content, _, ⟨hmem, hrest⟩, rfl, rfl⟩
      refine ⟨rfl, trivial, hmem, trivial, ?_⟩
      rw [hrest] at hcs
      simpa [Lexeme.chars, Term.chars] using hcs
    · rintro ⟨hl, -, hmem, -, rfl⟩
      cases l with
      | phrase negated content =>
        have htake : takeDash ((Lexeme.phrase negated content).chars ++ rest) =
            (negated, '"' :: (content ++ '"' :: rest)) :=
          takeDash_eq_iff.2 ⟨by simp [Lexeme.chars, Term.chars], fun _ ↦ by simp⟩
        exact ⟨content, rest, ⟨hmem, by rw [htake]⟩, by rw [htake], rfl⟩
      | _ => exact absurd hl (by simp [Lexeme.category])

/-! ## With what a lexeme starts -/

/-- Whether a lexeme of a category can start with a character. -/
def Category.opensWith : Category → Char → Bool
  | betweenDates, c | asOfDate, c => isDigit c
  | comparedDate comparison, c => comparison.sign.head? == some c
  | orPair, c => isWordChar c || c == '"'
  | word, c => isWordChar c || c == '-'
  | string, c => c == '-' || c == '"'

theorem Category.isBlank_eq_false_of_opensWith {category : Category} {c : Char}
    (h : category.opensWith c = true) : isBlank c = false := by
  have hhyphen : isBlank '-' = false := by decide
  have hquote : isBlank '"' = false := by decide
  cases category with
  | betweenDates => exact isBlank_eq_false_of_isDigit h
  | comparedDate comparison =>
    rw [opensWith, beq_iff_eq] at h
    cases comparison <;> obtain rfl := Option.some.inj h <;> decide
  | asOfDate => exact isBlank_eq_false_of_isDigit h
  | orPair =>
    rw [opensWith, Bool.or_eq_true, beq_iff_eq] at h
    rcases h with h | rfl
    · exact isBlank_eq_false_of_isWordChar h
    · exact hquote
  | word =>
    rw [opensWith, Bool.or_eq_true, beq_iff_eq] at h
    rcases h with h | rfl
    · exact isBlank_eq_false_of_isWordChar h
    · exact hhyphen
  | string =>
    rw [opensWith, Bool.or_eq_true, beq_iff_eq, beq_iff_eq] at h
    rcases h with rfl | rfl
    · exact hhyphen
    · exact hquote

/-- A dated lexeme starts with a digit or a sign. -/
theorem Category.opensWith_eq_false_of_isDated {category : Category}
    (h : category.isDated = true) {c : Char} (hword : isWordChar c = true)
    (hdigit : isDigit c = false) : category.opensWith c = false := by
  cases category with
  | comparedDate comparison =>
    refine Bool.eq_false_iff.2 fun hopen ↦ ?_
    rw [opensWith, beq_iff_eq] at hopen
    cases comparison <;> obtain rfl := Option.some.inj hopen <;>
      exact absurd hword (by decide +kernel)
  | betweenDates => exact hdigit
  | asOfDate => exact hdigit
  | _ => exact absurd h Bool.false_ne_true

theorem Lexeme.exists_cons {l : Lexeme} (h : l.IsWellFormed) :
    ∃ c cs, l.chars = c :: cs ∧ l.category.opensWith c = true := by
  cases l with
  | dateRange first gap gap' last =>
    obtain ⟨c, cs, hcs, hc⟩ := first.exists_cons h.1
    exact ⟨c, cs ++ gap ++ ['T', 'O'] ++ gap' ++ last.chars, by simp [chars, hcs], hc⟩
  | comparedDate comparison gap d => cases comparison <;> exact ⟨_, _, rfl, rfl⟩
  | date d => exact d.exists_cons h
  | orPair left gap gap' right =>
    obtain ⟨c, cs, hcs, hc⟩ := left.exists_cons h.1
    refine ⟨c, cs ++ gap ++ ['O', 'R'] ++ gap' ++ right.chars, by simp [chars, hcs], ?_⟩
    simpa [category, Category.opensWith] using hc
  | word negated w =>
    cases negated with
    | true => exact ⟨'-', _, rfl, rfl⟩
    | false =>
      obtain ⟨c, cs, rfl, hc⟩ := IsWord.exists_cons h
      exact ⟨c, cs, rfl, by simp [category, Category.opensWith, hc]⟩
  | phrase negated content => cases negated <;> exact ⟨_, _, rfl, rfl⟩

theorem Lexeme.chars_ne_nil {l : Lexeme} (h : l.IsWellFormed) : l.chars ≠ [] := by
  obtain ⟨c, cs, hcs, -⟩ := l.exists_cons h
  rw [hcs]
  exact List.cons_ne_nil c cs

theorem Lexeme.startsWithBlank_chars_append {l : Lexeme} (h : l.IsWellFormed) (rest : List Char) :
    startsWithBlank (l.chars ++ rest) = false := by
  obtain ⟨c, ds, hds, hopen⟩ := l.exists_cons h
  rw [hds]
  exact Category.isBlank_eq_false_of_opensWith hopen

/-- **A category is ruled out by the first character.** -/
theorem Category.take?_eq_none {category : Category} {c : Char} (h : category.opensWith c = false)
    (prev : Option Char) (cs : List Char) : category.take? prev (c :: cs) = none := by
  rw [Option.eq_none_iff_forall_ne_some]
  rintro ⟨l, rest⟩ htake
  obtain ⟨rfl, -, hwf, -, hcs⟩ := take?_eq_some_iff.1 htake
  obtain ⟨c', cs', hcs', hopen⟩ := l.exists_cons hwf
  rw [hcs', List.cons_append] at hcs
  rw [← (List.cons.inj hcs).1, h] at hopen
  exact Bool.false_ne_true hopen

/-! ## The first category that has a lexeme -/

/-- The categories that are tried before a category. -/
def Category.before (category : Category) : List Category :=
  all.takeWhile (· != category)

theorem Category.all_eq (category : Category) :
    ∃ after, all = category.before ++ category :: after := by
  rcases category with _ | c | _ | _ | _ | _
  case comparedDate => cases c <;> exact ⟨_, rfl⟩
  all_goals exact ⟨_, rfl⟩

theorem Category.mem_all (category : Category) : category ∈ all := by
  obtain ⟨after, hall⟩ := category.all_eq
  rw [hall]
  exact List.mem_append_right _ List.mem_cons_self

/-- **What is taken**: the lexeme of a category for which none of the categories before it has
one. -/
theorem Lexeme.take?_eq_some_iff {prev : Option Char} {cs rest : List Char} {l : Lexeme} :
    take? prev cs = some (l, rest) ↔
      l.category.take? prev cs = some (l, rest) ∧
        ∀ category ∈ l.category.before, category.take? prev cs = none := by
  rw [take?, List.findSome?_eq_some_iff]
  constructor
  · rintro ⟨before, category, after, hall, htake, hnone⟩
    obtain ⟨hcat, -⟩ := Category.take?_eq_some_iff.1 htake
    have hnone' : ∀ x ∈ before, (x != category) = true := by
      intro x hx
      rw [bne_iff_ne]
      rintro rfl
      rw [hnone x hx] at htake
      simp at htake
    rw [hcat]
    refine ⟨htake, fun x hx ↦ hnone x ?_⟩
    rwa [Category.before, hall, takeWhile_append_of_stop hnone' (by simp)] at hx
  · rintro ⟨htake, hnone⟩
    obtain ⟨after, hall⟩ := Category.all_eq l.category
    exact ⟨_, _, after, hall, htake, hnone⟩

/-- What is taken has the shape of a lexeme and stands in the text. -/
theorem Lexeme.of_take?_eq_some {prev : Option Char} {cs rest : List Char} {l : Lexeme}
    (h : take? prev cs = some (l, rest)) :
    l.MayFollow prev ∧ l.IsWellFormed ∧ l.EndsBefore rest ∧ cs = l.chars ++ rest :=
  (Category.take?_eq_some_iff.1 (take?_eq_some_iff.1 h).1).2

theorem Lexeme.take?_eq_none_iff {prev : Option Char} {cs : List Char} :
    take? prev cs = none ↔ ∀ category : Category, category.take? prev cs = none := by
  rw [take?, List.findSome?_eq_none_iff]
  exact ⟨fun h category ↦ h category category.mem_all, fun h category _ ↦ h category⟩

/-- Where a lexeme stands, one is taken, be it another. -/
theorem Lexeme.take?_chars_append_ne_none {prev : Option Char} {rest : List Char} {l : Lexeme}
    (hprev : l.MayFollow prev) (hwf : l.IsWellFormed) (hrest : l.EndsBefore rest) :
    take? prev (l.chars ++ rest) ≠ none := by
  intro hnone
  have htake : l.category.take? prev (l.chars ++ rest) = some (l, rest) :=
    Category.take?_eq_some_iff.2 ⟨rfl, hprev, hwf, hrest, rfl⟩
  rw [take?_eq_none_iff.1 hnone] at htake
  exact Option.some_ne_none _ htake.symm

end SearchFilter
