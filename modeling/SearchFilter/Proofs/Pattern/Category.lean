import SearchFilter.Proofs.Lexeme.Take
import SearchFilter.Proofs.Pattern.Basic

/-!
# The patterns of the categories

Each category of lexemes has a pattern.  Where the functions that take a lexeme look at what stands
there and take it at once, a pattern is tried with all the going back that it asks for.  Dates and
phrases leave no choice: where their patterns match, they match what is taken.

* `DateStyle.pattern` and `Category.pattern` write the patterns down.
* `DateStyle.mem_tries_pattern`: where a date is matched.
* `Category.mem_tries_pattern_of_isDated` and `Category.mem_tries_string`: where a dated lexeme and
  where a phrase is matched.
-/

set_option autoImplicit false

namespace SearchFilter

open Unicode Pattern

/-! ## The patterns -/

namespace Pattern

/-- The blanks around a connective. -/
def gap : Pattern := oneOrMore (one isBlank)

/-- A run of digits of a fixed length. -/
def digits (n : Nat) : Pattern := times n (one isDigit)

/-- A number of one digit or two. -/
def shortNumber : Pattern := one isDigit ++ optional (one isDigit)

/-- A joiner and the word characters behind it, as they go on in a word. -/
def joined : Pattern := one isJoiner ++ oneOrMore (one isWordChar)

/-- A word. -/
def word : Pattern := oneOrMore (one isWordChar) ++ many joined

/-- A content between double quotes. -/
def quoted (content : Pattern) : Pattern := text ['"'] ++ content ++ text ['"']

/-- A side of a pair of alternatives. -/
def term : Pattern := either (quoted (oneOrMore (one (· != '"')))) word

end Pattern

namespace DateStyle

/-- The numbers of a date and what stands between them. -/
def numbers : DateStyle → Pattern
  | monthFirst => shortNumber ++ text ['/'] ++ shortNumber ++ text ['/'] ++ digits 4
  | yearFirst =>
    digits 4 ++ either (text ['/'] ++ shortNumber ++ text ['/'] ++ shortNumber) (digits 4)
  | dashed => digits 4 ++ text ['-'] ++ shortNumber ++ text ['-'] ++ shortNumber

/-- The pattern of the dates of a style. -/
def pattern (style : DateStyle) : Pattern := border ++ style.numbers ++ border

/-- What is asked of a date, asked of a date of each style. -/
def each (build : Pattern → Pattern) : Pattern :=
  either (build monthFirst.pattern) (either (build yearFirst.pattern) (build dashed.pattern))

end DateStyle

/-- **The pattern of a category.** -/
def Category.pattern : Category → Pattern
  | betweenDates => DateStyle.each fun date ↦ date ++ gap ++ text ['T', 'O'] ++ gap ++ date
  | comparedDate comparison =>
    DateStyle.each fun date ↦ text comparison.sign ++ many (one isBlank) ++ date
  | asOfDate => DateStyle.each fun date ↦ date
  | orPair => Pattern.term ++ gap ++ text ['O', 'R'] ++ gap ++ Pattern.term
  | word => optional (text ['-']) ++ Pattern.word
  | string => optional (text ['-']) ++ quoted (many (one (· != '"')))

/-! ## Dates -/

theorem spells_digits (n : Nat) : (digits n).Spells (runs isDigit (· = n)) :=
  spells_times_one isDigit n

/-- The runs of digits that may be a month or a day. -/
def shortRuns : Language Char := runs isDigit (DateForm.hasWidths.isShort · = true)

/-- The runs of digits that may be a year. -/
def longRuns : Language Char := runs isDigit (· = 4)

theorem spells_shortNumber : shortNumber.Spells shortRuns := by
  have hoptional : (optional (one isDigit)).Spells (runs isDigit fun n ↦ n = 1 ∨ n = 0) := by
    refine (spells_one isDigit).optional.congr fun w ↦ ?_
    rw [Language.mem_add, Language.mem_one, mem_runs, mem_runs, ← List.length_eq_zero_iff]
    constructor
    · rintro (⟨hlen, hw⟩ | hlen)
      · exact ⟨.inl hlen, hw⟩
      · exact ⟨.inr hlen, by simp [List.length_eq_zero_iff.1 hlen]⟩
    · rintro ⟨hlen | hlen, hw⟩
      · exact .inl ⟨hlen, hw⟩
      · exact .inr hlen
  refine (spells_one isDigit).runs_append hoptional fun n ↦ ?_
  rw [WrittenDate.isShort_iff]
  constructor
  · rintro ⟨i, j, rfl, rfl | rfl, rfl⟩
    · exact .inr rfl
    · exact .inl rfl
  · exact fun hn ↦ ⟨1, n - 1, rfl, by omega, by omega⟩

/-- The texts of the dates of a form. -/
def DateForm.texts (form : DateForm) : Language Char :=
  {w | ∃ d : WrittenDate, d.form = form ∧ d.isWellFormed = true ∧ d.chars = w}

/-- A date is three numbers of the widths of its form, with the mark of the form between them. -/
theorem DateForm.texts_eq (form : DateForm) {size size' size'' : Nat → Prop}
    (hwidths : ∀ i j k, form.hasWidths i j k = true ↔ size i ∧ size' j ∧ size'' k) :
    form.texts = runs isDigit size * {form.mark} * runs isDigit size' * {form.mark} *
      runs isDigit size'' := by
  ext w
  simp only [Language.mem_mul, mem_runs]
  constructor
  · rintro ⟨⟨_, first, second, third⟩, rfl, hwf, rfl⟩
    obtain ⟨hfirst, hsecond, hthird, hlengths⟩ := WrittenDate.isWellFormed_iff.1 hwf
    obtain ⟨hsize, hsize', hsize''⟩ := (hwidths _ _ _).1 hlengths
    exact ⟨_, ⟨_, ⟨_, ⟨first, ⟨hsize, hfirst⟩, _, rfl, rfl⟩, second, ⟨hsize', hsecond⟩, rfl⟩, _,
      rfl, rfl⟩, third, ⟨hsize'', hthird⟩, rfl⟩
  · rintro ⟨_, ⟨_, ⟨_, ⟨first, ⟨hsize, hfirst⟩, _, rfl, rfl⟩, second, ⟨hsize', hsecond⟩, rfl⟩, _,
      rfl, rfl⟩, third, ⟨hsize'', hthird⟩, rfl⟩
    exact ⟨⟨form, first, second, third⟩, rfl, WrittenDate.isWellFormed_iff.2
      ⟨hfirst, hsecond, hthird, (hwidths _ _ _).2 ⟨hsize, hsize', hsize''⟩⟩, rfl⟩

theorem DateForm.texts_monthFirst :
    monthFirst.texts = shortRuns * {['/']} * shortRuns * {['/']} * longRuns :=
  monthFirst.texts_eq (by simp [hasWidths, and_assoc])

theorem DateForm.texts_dashed :
    dashed.texts = longRuns * {['-']} * shortRuns * {['-']} * shortRuns :=
  dashed.texts_eq (by simp [hasWidths, and_assoc])

theorem DateForm.texts_yearFirst :
    yearFirst.texts = longRuns * ({['/']} * shortRuns * {['/']} * shortRuns) := by
  have h : yearFirst.texts = longRuns * {['/']} * shortRuns * {['/']} * shortRuns :=
    yearFirst.texts_eq (by simp [hasWidths, and_assoc])
  rw [h]
  simp only [mul_assoc]

theorem DateForm.texts_compact : compact.texts = longRuns * longRuns := by
  have h : compact.texts =
      longRuns * 1 * runs isDigit (· = 2) * 1 * runs isDigit (· = 2) :=
    compact.texts_eq (by simp [hasWidths, and_assoc])
  have htwo : runs isDigit (· = 2) * runs isDigit (· = 2) = longRuns := by
    ext w
    rw [mem_runs_mul, longRuns, mem_runs, mem_runs]
    refine and_congr_left' ⟨?_, fun hlen ↦ ⟨2, 2, rfl, rfl, hlen.symm⟩⟩
    rintro ⟨i, j, rfl, rfl, hlen⟩
    exact hlen.symm
  rw [h, mul_one, mul_one, mul_assoc, htwo]

namespace DateStyle

/-- The texts of the dates of a style. -/
def texts (style : DateStyle) : Language Char :=
  {w | ∃ d : WrittenDate, d.form.style = style ∧ d.isWellFormed = true ∧ d.chars = w}

theorem mem_texts_iff {style : DateStyle} {w : List Char} :
    w ∈ style.texts ↔ ∃ form : DateForm, form.style = style ∧ w ∈ form.texts := by
  constructor
  · rintro ⟨d, hstyle, h⟩
    exact ⟨d.form, hstyle, d, rfl, h⟩
  · rintro ⟨_, hstyle, d, rfl, h⟩
    exact ⟨d, hstyle, h⟩

theorem spells_numbers (style : DateStyle) : style.numbers.Spells style.texts := by
  have hslash := spells_text ['/']
  have hhyphen := spells_text ['-']
  have hshort := spells_shortNumber
  have hlong : (digits 4).Spells longRuns := spells_digits 4
  cases style with
  | monthFirst =>
    refine ((((hshort.append hslash).append hshort).append hslash).append hlong).congr fun w ↦ ?_
    rw [← DateForm.texts_monthFirst, mem_texts_iff]
    refine ⟨fun h ↦ ⟨_, rfl, h⟩, ?_⟩
    rintro ⟨_ | _ | _ | _, hform, h⟩
    case monthFirst => exact h
    all_goals exact absurd hform (by decide)
  | yearFirst =>
    refine (hlong.append ((((hslash.append hshort).append hslash).append hshort).either
      hlong)).congr fun w ↦ ?_
    rw [mul_add, ← DateForm.texts_yearFirst, ← DateForm.texts_compact, Language.mem_add,
      mem_texts_iff]
    refine ⟨?_, ?_⟩
    · rintro (h | h)
      · exact ⟨_, rfl, h⟩
      · exact ⟨.compact, rfl, h⟩
    · rintro ⟨_ | _ | _ | _, hform, h⟩
      case yearFirst => exact .inl h
      case compact => exact .inr h
      all_goals exact absurd hform (by decide)
  | dashed =>
    refine ((((hlong.append hhyphen).append hshort).append hhyphen).append hshort).congr fun w ↦ ?_
    rw [← DateForm.texts_dashed, mem_texts_iff]
    refine ⟨fun h ↦ ⟨_, rfl, h⟩, ?_⟩
    rintro ⟨_ | _ | _ | _, hform, h⟩
    case dashed => exact h
    all_goals exact absurd hform (by decide)

end DateStyle

theorem WrittenDate.getLast?_chars {d : WrittenDate} (h : d.isWellFormed = true) :
    ∃ c, d.chars.getLast? = some c ∧ isDigit c = true := by
  obtain ⟨-, -, hthird, hwidths⟩ := isWellFormed_iff.1 h
  have hne : d.third ≠ [] := by
    intro hnil
    rw [hnil] at hwidths
    cases hform : d.form <;>
      simp [hform, DateForm.hasWidths, DateForm.hasWidths.isShort] at hwidths
  refine ⟨d.third.getLast hne, ?_, hthird _ (List.getLast_mem hne)⟩
  rw [chars, List.getLast?_append, List.getLast?_eq_some_getLast hne, Option.some_or]

/-- **Where a date is matched**: digits before and behind would belong to the same word. -/
theorem DateStyle.mem_tries_pattern {style : DateStyle} {x y : Position} :
    y ∈ style.pattern.tries x ↔ ∃ d : WrittenDate, d.form.style = style ∧ d.isWellFormed = true ∧
      dateMayFollow x.prev = true ∧ startsWithWordChar y.rest = false ∧ x.Passes d.chars y := by
  have hbefore : ∀ {d : WrittenDate}, d.isWellFormed = true → x.Passes d.chars y →
      isBorder x = dateMayFollow x.prev := by
    intro d hd hpass
    obtain ⟨c, cs, hcs, hc⟩ := d.exists_cons hd
    have hstart : startsWithWordChar x.rest = true := by
      rw [hpass.1, hcs]
      exact isWordChar_of_isDigit hc
    rw [isBorder, hstart, Bool.bne_true, dateMayFollow]
  have hbehind : ∀ {d : WrittenDate}, d.isWellFormed = true → x.Passes d.chars y →
      isBorder y = !startsWithWordChar y.rest := by
    intro d hd hpass
    obtain ⟨c, hlast, hc⟩ := d.getLast?_chars hd
    rw [isBorder, hpass.2, hlast, Option.some_or, Option.any_some, isWordChar_of_isDigit hc,
      Bool.true_bne]
  simp only [pattern, mem_tries_append, mem_tries_border]
  constructor
  · rintro ⟨_, ⟨_, ⟨hx, rfl⟩, hnumbers⟩, hy, rfl⟩
    obtain ⟨_, ⟨d, hstyle, hd, rfl⟩, hpass⟩ := (spells_numbers style _ _).1 hnumbers
    refine ⟨d, hstyle, hd, ?_, ?_, hpass⟩
    · rw [← hbefore hd hpass, hx]
    · rwa [hbehind hd hpass, Bool.not_eq_true'] at hy
  · rintro ⟨d, hstyle, hd, hx, hy, hpass⟩
    refine ⟨y, ⟨x, ⟨?_, rfl⟩, ?_⟩, ?_, rfl⟩
    · rw [hbefore hd hpass, hx]
    · exact (spells_numbers style _ _).2 ⟨_, ⟨d, hstyle, hd, rfl⟩, hpass⟩
    · rw [hbehind hd hpass, hy, Bool.not_false]

theorem DateStyle.mem_tries_each {build : Pattern → Pattern} {x y : Position} :
    y ∈ (each build).tries x ↔ ∃ style : DateStyle, y ∈ (build style.pattern).tries x := by
  simp only [each, mem_tries_either]
  constructor
  · rintro (h | h | h)
    · exact ⟨_, h⟩
    · exact ⟨_, h⟩
    · exact ⟨_, h⟩
  · rintro ⟨_ | _ | _, h⟩
    · exact .inl h
    · exact .inr (.inl h)
    · exact .inr (.inr h)

/-! ## Categories that leave no choice -/

theorem mem_tries_gap {x y : Position} :
    y ∈ Pattern.gap.tries x ↔ ∃ blanks, IsGap blanks ∧ x.Passes blanks y := by
  rw [Pattern.gap, spells_oneOrMore_one isBlank x y]
  simp only [mem_runs, List.length_pos_iff, IsGap]

theorem mem_tries_many_one {k : Char → Bool} {x y : Position} :
    y ∈ (many (one k)).tries x ↔ ∃ run, (∀ c ∈ run, k c = true) ∧ x.Passes run y := by
  rw [spells_many_one k x y]
  simp only [mem_runs, true_and]

/-- A date may follow what does not end in a word character. -/
theorem dateMayFollow_of_passes {x y : Position} {taken : List Char} (h : x.Passes taken y)
    {c : Char} (hlast : taken.getLast? = some c) (hc : isWordChar c = false) :
    dateMayFollow y.prev = true := by
  rw [h.2, hlast, Option.some_or, dateMayFollow, Option.any_some, hc, Bool.not_false]

theorem Comparison.exists_getLast?_sign (comparison : Comparison) :
    ∃ c, comparison.sign.getLast? = some c ∧ isWordChar c = false := by
  cases comparison <;> exact ⟨_, rfl, by decide +kernel⟩

theorem exists_getLast?_of_isBlank {gap : List Char} (hne : gap ≠ [])
    (h : ∀ c ∈ gap, isBlank c = true) : ∃ c, gap.getLast? = some c ∧ isWordChar c = false :=
  ⟨_, List.getLast?_eq_some_getLast hne,
    isWordChar_eq_false_of_isBlank (h _ (List.getLast_mem hne))⟩

/-- **A dated lexeme is matched where it is taken.** -/
theorem Category.mem_tries_pattern_of_isDated {category : Category}
    (h : category.isDated = true) {x y : Position} :
    y ∈ category.pattern.tries x ↔ ∃ l : Lexeme, l.category = category ∧ l.MayFollow x.prev ∧
      l.IsWellFormed ∧ l.EndsBefore y.rest ∧ x.Passes l.chars y := by
  cases category with
  | betweenDates =>
    simp only [pattern, DateStyle.mem_tries_each, mem_tries_append, DateStyle.mem_tries_pattern,
      mem_tries_gap, mem_tries_text]
    constructor
    · rintro ⟨_, z, ⟨_, ⟨_, ⟨_, ⟨first, rfl, hfirst, hprev, -, hx⟩, gap, hgap, hpass⟩, hto⟩, gap',
        hgap', hpass'⟩, last, hstyle, hlast, -, hend, hy⟩
      exact ⟨.dateRange first gap gap' last, rfl, hprev,
        ⟨hfirst, hlast, hstyle.symm, hgap, hgap'⟩, hend,
        (((hx.append hpass).append hto).append hpass').append hy⟩
    · rintro ⟨l, hl, hprev, hwf, hend, hpass⟩
      cases l with
      | dateRange first gap gap' last =>
        obtain ⟨hfirst, hlast, hstyle, hgap, hgap'⟩ := hwf
        simp only [Lexeme.chars, Position.passes_append] at hpass
        obtain ⟨z, ⟨z₂, ⟨z₁, ⟨z₀, hx, hpass⟩, hto⟩, hpass'⟩, hy⟩ := hpass
        refine ⟨_, z, ⟨z₂, ⟨z₁, ⟨z₀, ⟨first, rfl, hfirst, hprev, ?_, hx⟩, gap, hgap, hpass⟩, hto⟩,
          gap', hgap', hpass'⟩, last, hstyle.symm, hlast, ?_, hend, hy⟩
        · rw [hpass.1]
          exact startsWithWordChar_gap_append hgap z₁.rest
        · obtain ⟨c, hlast, hc⟩ := exists_getLast?_of_isBlank hgap'.1 hgap'.2
          exact dateMayFollow_of_passes hpass' hlast hc
      | _ => exact absurd hl (by simp [Lexeme.category])
  | comparedDate comparison =>
    simp only [pattern, DateStyle.mem_tries_each, mem_tries_append, DateStyle.mem_tries_pattern,
      mem_tries_many_one, mem_tries_text]
    constructor
    · rintro ⟨_, z, ⟨_, hsign, gap, hgap, hpass⟩, d, rfl, hd, -, hend, hy⟩
      exact ⟨.comparedDate comparison gap d, rfl, trivial, ⟨hgap, hd⟩, hend,
        (hsign.append hpass).append hy⟩
    · rintro ⟨l, hl, -, hwf, hend, hpass⟩
      cases l with
      | comparedDate comparison' gap d =>
        obtain rfl : comparison' = comparison := by simpa [Lexeme.category] using hl
        simp only [Lexeme.chars, Position.passes_append] at hpass
        obtain ⟨z, ⟨z₀, hsign, hpass⟩, hy⟩ := hpass
        refine ⟨_, z, ⟨z₀, hsign, gap, hwf.1, hpass⟩, d, rfl, hwf.2, ?_, hend, hy⟩
        by_cases hnil : gap = []
        · obtain ⟨c, hlast, hc⟩ := comparison'.exists_getLast?_sign
          rw [hnil, Position.passes_nil] at hpass
          exact dateMayFollow_of_passes (hpass ▸ hsign) hlast hc
        · obtain ⟨c, hlast, hc⟩ := exists_getLast?_of_isBlank hnil hwf.1
          exact dateMayFollow_of_passes hpass hlast hc
      | _ => exact absurd hl (by simp [Lexeme.category])
  | asOfDate =>
    simp only [pattern, DateStyle.mem_tries_each, DateStyle.mem_tries_pattern]
    constructor
    · rintro ⟨_, d, rfl, hd, hprev, hend, hpass⟩
      exact ⟨.date d, rfl, hprev, hd, hend, hpass⟩
    · rintro ⟨l, hl, hprev, hwf, hend, hpass⟩
      cases l with
      | date d => exact ⟨_, d, rfl, hwf, hprev, hend, hpass⟩
      | _ => exact absurd hl (by simp [Lexeme.category])
  | _ => exact absurd h Bool.false_ne_true

/-! ## Quoted texts -/

theorem forall_ne_quote_iff {content : List Char} :
    (∀ c ∈ content, (c != '"') = true) ↔ '"' ∉ content := by
  simp only [bne_iff_ne, ne_eq]
  exact ⟨fun h hm ↦ h _ hm rfl, fun h c hc he ↦ h (he ▸ hc)⟩

theorem mem_tries_quoted {p : Pattern} {l : Language Char} (hp : p.Spells l) {x y : Position} :
    y ∈ (quoted p).tries x ↔ ∃ content ∈ l, x.Passes (Term.quoted content).chars y := by
  have hchars : ∀ content, (Term.quoted content).chars = ['"'] ++ content ++ ['"'] := fun _ ↦ rfl
  simp only [quoted, mem_tries_append, mem_tries_text, hp _ _, hchars, Position.passes_append]
  constructor
  · rintro ⟨z₂, ⟨z₁, hopen, content, hcontent, hpass⟩, hclose⟩
    exact ⟨content, hcontent, z₂, ⟨z₁, hopen, hpass⟩, hclose⟩
  · rintro ⟨content, hcontent, z₂, ⟨z₁, hopen, hpass⟩, hclose⟩
    exact ⟨z₂, ⟨z₁, hopen, content, hcontent, hpass⟩, hclose⟩

/-- **A phrase is matched where it is taken.** -/
theorem Category.mem_tries_string {x y : Position} :
    y ∈ Category.string.pattern.tries x ↔ ∃ negated content, '"' ∉ content ∧
      x.Passes (Lexeme.phrase negated content).chars y := by
  have hdash : ∀ {z : Position}, z ∈ (optional (text ['-'])).tries x ↔
      ∃ negated, x.Passes (Lexeme.dash negated) z := by
    intro z
    rw [mem_tries_optional, mem_tries_text, ← Position.passes_nil]
    simp [Lexeme.dash, or_comm]
  simp only [pattern, mem_tries_append, hdash, mem_tries_quoted (spells_many_one _), mem_runs,
    true_and, forall_ne_quote_iff, Lexeme.chars, Position.passes_append]
  constructor
  · rintro ⟨z, ⟨negated, hz⟩, content, hcontent, hpass⟩
    exact ⟨negated, content, hcontent, z, hz, hpass⟩
  · rintro ⟨negated, content, hcontent, z, hz, hpass⟩
    exact ⟨z, ⟨negated, hz⟩, content, hcontent, hpass⟩

end SearchFilter
