import SearchFilter.Negation
import SearchFilter.Proofs.Cleaning

/-!
# What a text is classified as

`classify` tries shapes in an order, but of the shapes that name dates no two fit the same text: a
few marks in it, the letters of `TO` and the comparison signs, tell them apart.  So the order
matters nowhere, and classifying the text of a dated lexeme gives its own operator.

* `Category.describes_iff`: a text has the shape of a category when it is a lexeme of it.
* `isAlternative_iff`: what is asked of a pair of alternatives.
* `classify_chars_of_isDated` and `exists_of_classify_isDate`: dated lexemes and nothing else are
  classified as dates.
* `classify_eq_or_iff`: what is classified as a pair of alternatives.
* `classify_clean_chars_of_isDated` and `between_spaces_iff`: what becomes of dates and pairs when
  they are cleaned.
-/

set_option autoImplicit false

namespace SearchFilter

open Unicode

/-! ## The shapes -/

/-- **A text has the shape of a category** when it is a lexeme of that category. -/
theorem Category.describes_iff {category : Category} (h : category ≠ .orPair) {cs : List Char} :
    category.describes cs = true ↔
      ∃ l : Lexeme, l.category = category ∧ l.IsWellFormed ∧ l.chars = cs := by
  have htake : category.describes cs = (category.take? none cs).any (·.2.isEmpty) := by
    cases category with
    | orPair => exact absurd rfl h
    | _ => rfl
  rw [htake, Option.any_eq_true]
  constructor
  · rintro ⟨⟨l, rest⟩, htake, hrest⟩
    obtain ⟨hl, -, hwf, -, hcs⟩ := take?_eq_some_iff.1 htake
    obtain rfl : rest = [] := List.isEmpty_iff.1 hrest
    rw [List.append_nil] at hcs
    exact ⟨l, hl, hwf, hcs.symm⟩
  · rintro ⟨l, hl, hwf, rfl⟩
    exact ⟨(l, []), take?_eq_some_iff.2
      ⟨hl, l.mayFollow_none, hwf, l.endsBefore_nil, (List.append_nil _).symm⟩, rfl⟩

theorem opensAlternative_iff {cs : List Char} :
    opensAlternative cs = true ↔ ∃ b, b ≠ [] ∧ cs = [' ', 'O', 'R', ' '] ++ b := by
  constructor
  · intro h
    unfold opensAlternative at h
    split at h
    · next c b => exact ⟨c :: b, List.cons_ne_nil c b, rfl⟩
    · exact absurd h Bool.false_ne_true
  · rintro ⟨b, hb, rfl⟩
    obtain ⟨c, b, rfl⟩ := List.exists_cons_of_ne_nil hb
    rfl

/-- **A text is a pair of alternatives** when `OR` stands in it between two spaces, with something
before and something behind. -/
theorem isAlternative_iff {cs : List Char} :
    isAlternative cs = true ↔
      ∃ a b, a ≠ [] ∧ b ≠ [] ∧ cs = a ++ [' ', 'O', 'R', ' '] ++ b := by
  induction cs with
  | nil => simp [isAlternative]
  | cons c cs ih =>
    rw [isAlternative, Bool.or_eq_true, opensAlternative_iff, ih]
    constructor
    · rintro (⟨b, hb, rfl⟩ | ⟨a, b, ha, hb, rfl⟩)
      · exact ⟨[c], b, by simp, hb, rfl⟩
      · exact ⟨c :: a, b, by simp, hb, rfl⟩
    · rintro ⟨a, b, ha, hb, hcs⟩
      obtain ⟨d, a, rfl⟩ := List.exists_cons_of_ne_nil ha
      rw [List.cons_append, List.cons_append, List.cons.injEq] at hcs
      cases a with
      | nil => exact .inl ⟨b, hb, hcs.2⟩
      | cons e a => exact .inr ⟨e :: a, b, by simp, hb, hcs.2⟩

/-- Where `OR` stands in a text, this `OR` makes it a pair of alternatives, or another one on one
of the two sides does. -/
theorem isAlternative_append_iff {a b : List Char} :
    isAlternative (a ++ 'O' :: 'R' :: b) = true ↔
      (∃ x y, x ≠ [] ∧ y ≠ [] ∧ a = x ++ [' '] ∧ b = ' ' :: y) ∨
      (∃ x y, x ≠ [] ∧ a = x ++ [' ', 'O', 'R', ' '] ++ y) ∨
      ∃ x y, y ≠ [] ∧ b = x ++ [' ', 'O', 'R', ' '] ++ y := by
  rw [isAlternative_iff]
  constructor
  · rintro ⟨x, y, hx, hy, h⟩
    rw [List.append_assoc] at h
    -- the `OR` of the pair starts before the end of `a` or behind it
    rcases List.append_eq_append_iff.1 h with ⟨t, rfl, ht⟩ | ⟨t, rfl, ht⟩
    · match t, ht with
      | [], ht => simp at ht
      | [_], ht => simp at ht
      | _ :: _ :: t, ht =>
        rw [List.cons_append, List.cons_append, List.cons.injEq, List.cons.injEq] at ht
        exact .inr (.inr ⟨t, y, hy, by rw [ht.2.2, List.append_assoc]⟩)
    · match t, ht with
      | [], ht => simp at ht
      | [_], ht =>
        simp only [List.cons_append, List.nil_append, List.cons.injEq, true_and] at ht
        exact .inl ⟨x, y, hx, hy, by rw [ht.1], ht.2.symm⟩
      | [_, _], ht => simp at ht
      | [_, _, _], ht => simp at ht
      | _ :: _ :: _ :: _ :: t, ht =>
        simp only [List.cons_append, List.nil_append, List.cons.injEq] at ht
        obtain ⟨rfl, rfl, rfl, rfl, -⟩ := ht
        exact .inr (.inl ⟨x, t, hx, by simp⟩)
  · rintro (⟨x, y, hx, hy, rfl, rfl⟩ | ⟨x, y, hx, rfl⟩ | ⟨x, y, hy, rfl⟩)
    · exact ⟨x, y, hx, hy, by simp⟩
    · exact ⟨x, y ++ 'O' :: 'R' :: b, hx, by simp, by simp⟩
    · exact ⟨a ++ 'O' :: 'R' :: x, y, by simp, hy, by simp⟩

theorem mem_of_isAlternative {cs : List Char} (h : isAlternative cs = true) :
    ' ' ∈ cs ∧ 'R' ∈ cs := by
  obtain ⟨a, b, -, -, rfl⟩ := isAlternative_iff.1 h
  simp

/-! ## The marks that tell dated lexemes apart -/

/-- The characters by which the shapes of dated lexemes differ, and one that they all lack. -/
def isMark (c : Char) : Bool :=
  ['T', 'O', 'R', '<', '>', '='].contains c

/-- The marks in a dated lexeme of a category. -/
def Category.marks : Category → List Char
  | betweenDates => ['T', 'O']
  | comparedDate comparison => comparison.sign
  | _ => []

theorem isMark_eq_false {c : Char} (h : isDigit c = true ∨ c = '/' ∨ c = '-' ∨ isBlank c = true) :
    isMark c = false := by
  refine Bool.eq_false_iff.2 fun hm ↦ ?_
  simp only [isMark, List.contains_cons, List.contains_nil, Bool.or_false, Bool.or_eq_true,
    beq_iff_eq] at hm
  rcases hm with rfl | rfl | rfl | rfl | rfl | rfl <;> revert h <;> decide

theorem Lexeme.filter_isMark_chars {l : Lexeme} (hl : l.category.isDated = true)
    (h : l.IsWellFormed) : l.chars.filter isMark = l.category.marks := by
  have hdate : ∀ {d : WrittenDate}, d.isWellFormed = true → d.chars.filter isMark = [] := by
    intro d hd
    refine List.filter_eq_nil_iff.2 fun c hc ↦ ?_
    rw [isMark_eq_false ((d.mem_chars hd hc).imp_right (Or.imp_right .inl))]
    exact Bool.false_ne_true
  have hgap : ∀ {gap : List Char}, (∀ c ∈ gap, isBlank c = true) → gap.filter isMark = [] := by
    intro gap hgap
    refine List.filter_eq_nil_iff.2 fun c hc ↦ ?_
    rw [isMark_eq_false (.inr (.inr (.inr (hgap c hc))))]
    exact Bool.false_ne_true
  cases l with
  | dateRange first gap gap' last =>
    obtain ⟨hfirst, hlast, -, hg, hg'⟩ := h
    simp only [chars, List.filter_append, hdate hfirst, hdate hlast, hgap hg.2, hgap hg'.2]
    rfl
  | comparedDate comparison gap d =>
    simp only [chars, List.filter_append, hgap h.1, hdate h.2]
    cases comparison <;> rfl
  | date d => exact hdate h
  | _ => exact absurd hl (by simp [category, Category.isDated])

/-- The marks tell the category. -/
theorem Category.eq_of_marks_eq {κ κ' : Category} (h : κ.isDated = true) (h' : κ'.isDated = true)
    (hmarks : κ.marks = κ'.marks) : κ = κ' := by
  have hall : ∀ κ ∈ all, ∀ κ' ∈ all, κ.isDated = true → κ'.isDated = true →
      κ.marks = κ'.marks → κ = κ' := by decide
  exact hall κ κ.mem_all κ' κ'.mem_all h h' hmarks

/-- **Of two dated shapes only one fits a text.** -/
theorem Lexeme.category_eq_of_chars_eq {l m : Lexeme} (hl : l.category.isDated = true)
    (hm : m.category.isDated = true) (hlwf : l.IsWellFormed) (hmwf : m.IsWellFormed)
    (h : l.chars = m.chars) : l.category = m.category := by
  have hmarks := congrArg (List.filter isMark) h
  rw [filter_isMark_chars hl hlwf, filter_isMark_chars hm hmwf] at hmarks
  exact Category.eq_of_marks_eq hl hm hmarks

theorem Lexeme.not_mem_chars_of_isDated {l : Lexeme} (hl : l.category.isDated = true)
    (h : l.IsWellFormed) : 'R' ∉ l.chars := by
  intro hR
  have hmem : 'R' ∈ l.chars.filter isMark := List.mem_filter.2 ⟨hR, rfl⟩
  have hnone : ∀ κ ∈ Category.all, κ.isDated = true → 'R' ∉ κ.marks := by decide
  rw [filter_isMark_chars hl h] at hmem
  exact hnone _ l.category.mem_all hl hmem

theorem Lexeme.isAlternative_chars_eq_false {l : Lexeme} (hl : l.category.isDated = true)
    (h : l.IsWellFormed) : isAlternative l.chars = false :=
  Bool.eq_false_iff.2 fun halt ↦ not_mem_chars_of_isDated hl h (mem_of_isAlternative halt).2

/-! ## The operator of a text -/

theorem isDated_of_mem_classifying {category : Category} (h : category ∈ Category.classifying)
    (hne : category ≠ .orPair) : category.isDated = true := by
  revert h hne
  have hall : ∀ κ ∈ Category.all, κ ∈ Category.classifying → κ ≠ .orPair → κ.isDated = true := by
    decide
  exact hall category category.mem_all

theorem mem_classifying_of_isDated {category : Category} (h : category.isDated = true) :
    category ∈ Category.classifying := by
  have hall : ∀ κ ∈ Category.all, κ.isDated = true → κ ∈ Category.classifying := by decide
  exact hall category category.mem_all h

/-- **A dated lexeme is classified by its own category**, whatever the order of the categories. -/
theorem classify_chars_of_isDated {l : Lexeme} (hl : l.category.isDated = true)
    (h : l.IsWellFormed) : classify l.chars = l.category.operator? := by
  have hne : l.category ≠ .orPair := by
    intro he
    rw [he] at hl
    exact Bool.false_ne_true hl
  have hsome : (Category.classifying.find? (·.describes l.chars)).isSome = true := by
    rw [List.find?_isSome]
    exact ⟨l.category, mem_classifying_of_isDated hl,
      (Category.describes_iff hne).2 ⟨l, rfl, h, rfl⟩⟩
  obtain ⟨κ, hκ⟩ := Option.isSome_iff_exists.1 hsome
  have hdescribes : κ.describes l.chars = true := by simpa using List.find?_some hκ
  have hκne : κ ≠ .orPair := by
    rintro rfl
    rw [Category.describes, l.isAlternative_chars_eq_false hl h] at hdescribes
    exact Bool.false_ne_true hdescribes
  obtain ⟨m, rfl, hmwf, hchars⟩ := (Category.describes_iff hκne).1 hdescribes
  have hm := isDated_of_mem_classifying (List.mem_of_find?_eq_some hκ) hκne
  rw [classify, hκ, Option.bind_some, Lexeme.category_eq_of_chars_eq hm hl hmwf h hchars]

/-- **What is classified as a date is a dated lexeme** of the category with that operator. -/
theorem exists_of_classify_isDate {cs : List Char} {op : Operator} (h : classify cs = some op)
    (hop : op.isDate = true) :
    ∃ l : Lexeme, l.category.isDated = true ∧ l.category.operator? = some op ∧
      l.IsWellFormed ∧ l.chars = cs := by
  obtain ⟨κ, hκ, hκop⟩ := Option.bind_eq_some_iff.1 h
  have hdescribes : κ.describes cs = true := by simpa using List.find?_some hκ
  have hκne : κ ≠ .orPair := by
    rintro rfl
    obtain rfl : Operator.or = op := by simpa [Category.operator?] using hκop
    exact Bool.false_ne_true hop
  obtain ⟨l, rfl, hwf, hchars⟩ := (Category.describes_iff hκne).1 hdescribes
  exact ⟨l, isDated_of_mem_classifying (List.mem_of_find?_eq_some hκ) hκne, hκop, hwf, hchars⟩

theorem eq_or_or_isDate_of_classify {cs : List Char} {op : Operator} (h : classify cs = some op) :
    op = .or ∨ op.isDate = true := by
  obtain ⟨κ, -, hκop⟩ := Option.bind_eq_some_iff.1 h
  cases κ <;> simp only [Category.operator?, Option.some.injEq, reduceCtorEq] at hκop <;>
    subst hκop <;> simp [Operator.isDate]

/-- A text with an `R` in it is no date. -/
theorem eq_or_of_classify {cs : List Char} {op : Operator} (h : classify cs = some op)
    (hR : 'R' ∈ cs) : op = .or := by
  refine (eq_or_or_isDate_of_classify h).resolve_right fun hop ↦ ?_
  obtain ⟨l, hl, -, hwf, rfl⟩ := exists_of_classify_isDate h hop
  exact Lexeme.not_mem_chars_of_isDated hl hwf hR

theorem classify_eq_or_iff {cs : List Char} : classify cs = some .or ↔ isAlternative cs = true := by
  constructor
  · intro h
    obtain ⟨κ, hκ, hκop⟩ := Option.bind_eq_some_iff.1 h
    have hdescribes : κ.describes cs = true := by simpa using List.find?_some hκ
    cases κ with
    | orPair => exact hdescribes
    | _ => simp [Category.operator?] at hκop
  · intro h
    have hfirst : Category.orPair.describes cs = true := h
    simp [classify, Category.classifying, hfirst, Category.operator?]

/-! ## What is left of a lexeme -/

/-- What cleaning leaves of a dated lexeme is classified by the category of the lexeme. -/
theorem classify_clean_chars_of_isDated {l : Lexeme} (hl : l.category.isDated = true)
    (h : l.IsWellFormed) : classify (clean l.chars) = l.category.operator? := by
  rw [clean_chars_of_isDated hl h, classify_chars_of_isDated (by rwa [Lexeme.category_tidy])
    (Lexeme.isWellFormed_tidy h), Lexeme.category_tidy]

/-- The `OR` of a pair is between spaces when the blanks next to it are spaces, and each side is
more than that space when something else is left of it. -/
theorem between_spaces_iff {left right : Term} {gap gap' : List Char} (hgap : IsGap gap)
    (hgap' : IsGap gap') :
    (∃ x y, x ≠ [] ∧ y ≠ [] ∧ clean (left.chars ++ gap) = x ++ [' '] ∧
        clean (gap' ++ right.chars) = ' ' :: y) ↔
      gap.getLast? = some ' ' ∧ gap'.head? = some ' ' ∧
        clean (left.chars ++ gap) ≠ [' '] ∧ clean (gap' ++ right.chars) ≠ [' '] := by
  rw [← getLast?_clean_append_gap hgap left.chars, ← head?_clean_gap_append hgap' right.chars,
    List.getLast?_eq_some_iff, List.head?_eq_some_iff]
  constructor
  · rintro ⟨x, y, hx, hy, ha, hb⟩
    refine ⟨⟨x, ha⟩, ⟨y, hb⟩, ?_, ?_⟩
    · simpa [ha] using hx
    · simpa [hb] using hy
  · rintro ⟨⟨x, ha⟩, ⟨y, hb⟩, hx, hy⟩
    refine ⟨x, y, ?_, ?_, ha, hb⟩
    · simpa [ha] using hx
    · simpa [hb] using hy

end SearchFilter
