import Mathlib.Data.List.Find
import SearchFilter.Proofs.Classification
import SearchFilter.Proofs.Pattern.Category

/-!
# The shapes of whole texts

A text is classified by the shape that matches it from its first character to its last.  The shape
of a category is its pattern; only of a pair of alternatives less is asked, for its quotes are gone.
No text has two shapes, so it does not matter in which order they are tried.

* `Pattern.MatchesWhole` and `Category.shape`; `Category.describes_iff_matchesWhole` says that what
  classifies is the match of a shape.
* `Category.eq_of_describes`: a text has one shape at most.
* `DateForm.grammar` and `Operator.grammar` write down the texts of dates and of operators;
  `classify_eq_some_iff_mem_grammar` says that these are what is classified so.
* `shapes_are_disjoint`: the shapes, their order and the answer.
-/

set_option autoImplicit false

namespace SearchFilter

open Unicode Pattern

variable {cs : List Char}

/-! ## Shapes -/

/-- Whether a pattern matches a text from its first character to its last. -/
def Pattern.MatchesWhole (p : Pattern) (cs : List Char) : Prop :=
  ∃ y ∈ p.tries ⟨none, cs⟩, y.rest = []

theorem Pattern.Spells.matchesWhole_iff {p : Pattern} {l : Language Char} (hp : p.Spells l) :
    p.MatchesWhole cs ↔ cs ∈ l := by
  constructor
  · rintro ⟨y, hy, hrest⟩
    obtain ⟨taken, htaken, hpass⟩ := (hp _ _).1 hy
    obtain rfl : cs = taken := by simpa [hrest] using hpass.1
    exact htaken
  · exact fun h ↦ ⟨⟨cs.getLast?.or none, []⟩,
      (hp _ _).2 ⟨cs, h, (List.append_nil cs).symm, rfl⟩, rfl⟩

/-- Characters of whatever kind, at least one. -/
def Pattern.something : Pattern := oneOrMore (one fun _ ↦ true)

/-- **The shape of a category.**  Quotes do not tell any more where the sides of a pair end. -/
def Category.shape : Category → Pattern
  | .orPair => something ++ text [' ', 'O', 'R', ' '] ++ something
  | category => category.pattern

/-- The texts with `OR` between two spaces, and with something before and behind them. -/
def alternatives : Language Char :=
  runs (fun _ ↦ true) (0 < ·) * {[' ', 'O', 'R', ' ']} * runs (fun _ ↦ true) (0 < ·)

theorem mem_alternatives_iff : cs ∈ alternatives ↔ isAlternative cs = true := by
  have hrun : ∀ {w : List Char}, w ∈ runs (fun _ ↦ true) (0 < ·) ↔ w ≠ [] := by
    simp [mem_runs, List.length_pos_iff]
  rw [isAlternative_iff, alternatives]
  simp only [Language.mem_mul, hrun]
  constructor
  · rintro ⟨_, ⟨a, ha, _, rfl, rfl⟩, b, hb, rfl⟩
    exact ⟨a, b, ha, hb, rfl⟩
  · rintro ⟨a, b, ha, hb, rfl⟩
    exact ⟨_, ⟨a, ha, _, rfl, rfl⟩, b, hb, rfl⟩

theorem spells_shape_orPair : Category.orPair.shape.Spells alternatives :=
  ((spells_oneOrMore_one _).append (spells_text _)).append (spells_oneOrMore_one _)

/-- **What classifies a text is the match of a shape with the whole of it.** -/
theorem Category.describes_iff_matchesWhole {category : Category}
    (h : category ∈ Category.classifying) :
    category.describes cs = true ↔ category.shape.MatchesWhole cs := by
  by_cases hpair : category = .orPair
  · rw [hpair, spells_shape_orPair.matchesWhole_iff, mem_alternatives_iff, describes]
  · have hdated := isDated_of_mem_classifying h hpair
    have hshape : category.shape = category.pattern := by
      cases category with
      | orPair => exact absurd rfl hpair
      | _ => rfl
    rw [describes_iff hpair, hshape, MatchesWhole]
    simp only [mem_tries_pattern_of_isDated hdated]
    constructor
    · rintro ⟨l, hl, hwf, rfl⟩
      exact ⟨⟨l.chars.getLast?.or none, []⟩, ⟨l, hl, l.mayFollow_none, hwf, l.endsBefore_nil,
        (List.append_nil _).symm, rfl⟩, rfl⟩
    · rintro ⟨y, ⟨l, hl, -, hwf, -, hpass⟩, hrest⟩
      refine ⟨l, hl, hwf, ?_⟩
      simpa [hrest] using hpass.1.symm

/-- **A text has one shape at most.**  A dated one has no `R` in it, and of these the marks in the
text tell which. -/
theorem Category.eq_of_describes {κ κ' : Category} (hκ : κ ∈ classifying) (hκ' : κ' ∈ classifying)
    (h : κ.describes cs = true) (h' : κ'.describes cs = true) : κ = κ' := by
  -- a text with a dated shape is no pair of alternatives
  have hpair : ∀ {κ : Category}, κ ∈ classifying → κ ≠ .orPair → κ.describes cs = true →
      isAlternative cs = false := by
    intro κ hκ hne h
    obtain ⟨l, rfl, hwf, rfl⟩ := (describes_iff hne).1 h
    exact l.isAlternative_chars_eq_false (isDated_of_mem_classifying hκ hne) hwf
  by_cases hne : κ = .orPair
  · by_contra hne'
    rw [hne, describes, hpair hκ' (by rintro rfl; exact hne' hne) h'] at h
    exact Bool.false_ne_true h
  · by_cases hne' : κ' = .orPair
    · rw [hne', describes, hpair hκ hne h] at h'
      exact absurd h' Bool.false_ne_true
    · obtain ⟨l, rfl, hwf, rfl⟩ := (describes_iff hne).1 h
      obtain ⟨m, rfl, hmwf, hchars⟩ := (describes_iff hne').1 h'
      exact Lexeme.category_eq_of_chars_eq (isDated_of_mem_classifying hκ hne)
        (isDated_of_mem_classifying hκ' hne') hwf hmwf hchars.symm

/-- The order in which shapes are tried does not matter. -/
theorem Category.find?_describes_of_perm {order : List Category} (h : order.Perm classifying) :
    order.find? (·.describes cs) = classifying.find? (·.describes cs) := by
  refine List.find?_eq_find?_of_perm h ?_
  rintro κ ⟨hκ, hdescribes⟩ κ' ⟨hκ', hdescribes'⟩
  exact eq_of_describes (h.mem_iff.1 hκ) (h.mem_iff.1 hκ') hdescribes hdescribes'

/-! ## The texts of the operators -/

/-- The runs of digits of a length in a range. -/
def numerals (least most : Nat) : Language Char :=
  runs isDigit fun n ↦ least ≤ n ∧ n ≤ most

/-- **The texts of dates**, form by form. -/
def DateForm.grammar : DateForm → Language Char
  | monthFirst => numerals 1 2 * {['/']} * numerals 1 2 * {['/']} * numerals 4 4
  | yearFirst => numerals 4 4 * {['/']} * numerals 1 2 * {['/']} * numerals 1 2
  | compact => numerals 8 8
  | dashed => numerals 4 4 * {['-']} * numerals 1 2 * {['-']} * numerals 1 2

/-- The texts of dates of whatever form. -/
def dateTexts : Language Char := {w | ∃ form : DateForm, w ∈ form.grammar}

/-- **The texts of an operator.**  The shape of a text never decides whether it is negated. -/
def Operator.grammar : Operator → Language Char
  | or => alternatives
  | betweenDates => {w | ∃ first last : DateForm, first.style = last.style ∧
      w ∈ first.grammar * runs isBlank (0 < ·) * {['T', 'O']} * runs isBlank (0 < ·) * last.grammar}
  | compared comparison => {comparison.sign} * runs isBlank (fun _ ↦ True) * dateTexts
  | asOfDate => dateTexts
  | like | not => 0

theorem numerals_one_two : numerals 1 2 = shortRuns := by
  ext w
  rw [numerals, shortRuns, mem_runs, mem_runs, WrittenDate.isShort_iff]
  refine and_congr_left' ?_
  omega

theorem numerals_self (n : Nat) : numerals n n = runs isDigit (· = n) := by
  ext w
  rw [numerals, mem_runs, mem_runs]
  refine and_congr_left' ?_
  omega

theorem DateForm.texts_eq_grammar (form : DateForm) : form.texts = form.grammar := by
  have hlong : numerals 4 4 = longRuns := numerals_self 4
  cases form with
  | monthFirst => rw [texts_monthFirst, grammar, numerals_one_two, hlong]
  | yearFirst =>
    rw [texts_yearFirst, grammar, numerals_one_two, hlong]
    simp only [mul_assoc]
  | compact =>
    rw [texts_compact, grammar, numerals_self]
    ext w
    rw [longRuns, mem_runs_mul, mem_runs, mem_runs]
    refine and_congr_left' ⟨?_, fun hlen ↦ ⟨4, 4, rfl, rfl, hlen.symm⟩⟩
    rintro ⟨i, j, rfl, rfl, hlen⟩
    exact hlen.symm
  | dashed => rw [texts_dashed, grammar, numerals_one_two, hlong]

theorem DateForm.mem_grammar_iff {form : DateForm} : cs ∈ form.grammar ↔
    ∃ d : WrittenDate, d.form = form ∧ d.isWellFormed = true ∧ d.chars = cs := by
  rw [← texts_eq_grammar]
  exact Iff.rfl

theorem mem_dateTexts_iff :
    cs ∈ dateTexts ↔ ∃ d : WrittenDate, d.isWellFormed = true ∧ d.chars = cs := by
  constructor
  · rintro ⟨form, h⟩
    obtain ⟨d, -, hd, hcs⟩ := DateForm.mem_grammar_iff.1 h
    exact ⟨d, hd, hcs⟩
  · rintro ⟨d, hd, hcs⟩
    exact ⟨d.form, DateForm.mem_grammar_iff.2 ⟨d, rfl, hd, hcs⟩⟩

theorem mem_blanks_iff {w : List Char} : w ∈ runs isBlank (0 < ·) ↔ IsGap w := by
  rw [mem_runs, List.length_pos_iff, IsGap]

/-- The dated lexemes with an operator have its texts. -/
theorem Operator.mem_grammar_iff_of_isDate {op : Operator} (hop : op.isDate = true) :
    cs ∈ op.grammar ↔ ∃ l : Lexeme, l.category.isDated = true ∧ l.category.operator? = some op ∧
      l.IsWellFormed ∧ l.chars = cs := by
  cases op with
  | betweenDates =>
    constructor
    · rintro ⟨_, _, hstyle, _, ⟨_, ⟨_, ⟨_, hfirst, gap, hgap, rfl⟩, _, rfl, rfl⟩, gap', hgap', rfl⟩,
        _, hlast, rfl⟩
      obtain ⟨first, rfl, hwf, rfl⟩ := DateForm.mem_grammar_iff.1 hfirst
      obtain ⟨last, rfl, hwf', rfl⟩ := DateForm.mem_grammar_iff.1 hlast
      exact ⟨.dateRange first gap gap' last, rfl, rfl,
        ⟨hwf, hwf', hstyle, mem_blanks_iff.1 hgap, mem_blanks_iff.1 hgap'⟩, rfl⟩
    · rintro ⟨l, -, hl, hwf, rfl⟩
      cases l with
      | dateRange first gap gap' last =>
        obtain ⟨hfirst, hlast, hstyle, hgap, hgap'⟩ := hwf
        exact ⟨first.form, last.form, hstyle, _, ⟨_, ⟨_, ⟨_,
          DateForm.mem_grammar_iff.2 ⟨first, rfl, hfirst, rfl⟩, gap, mem_blanks_iff.2 hgap, rfl⟩,
          _, rfl, rfl⟩, gap', mem_blanks_iff.2 hgap', rfl⟩, _,
          DateForm.mem_grammar_iff.2 ⟨last, rfl, hlast, rfl⟩, rfl⟩
      | _ => simp [Lexeme.category, Category.operator?] at hl
  | compared comparison =>
    constructor
    · rintro ⟨_, ⟨_, rfl, gap, ⟨-, hgap⟩, rfl⟩, _, hdate, rfl⟩
      obtain ⟨d, hd, rfl⟩ := mem_dateTexts_iff.1 hdate
      exact ⟨.comparedDate comparison gap d, rfl, rfl, ⟨hgap, hd⟩, rfl⟩
    · rintro ⟨l, -, hl, hwf, rfl⟩
      cases l with
      | comparedDate comparison' gap d =>
        obtain rfl : comparison' = comparison := by
          simpa [Lexeme.category, Category.operator?] using hl
        exact ⟨_, ⟨_, rfl, gap, ⟨trivial, hwf.1⟩, rfl⟩, _, mem_dateTexts_iff.2 ⟨d, hwf.2, rfl⟩, rfl⟩
      | _ => simp [Lexeme.category, Category.operator?] at hl
  | asOfDate =>
    constructor
    · intro h
      obtain ⟨d, hd, rfl⟩ := mem_dateTexts_iff.1 h
      exact ⟨.date d, rfl, rfl, hd, rfl⟩
    · rintro ⟨l, -, hl, hwf, rfl⟩
      cases l with
      | date d => exact mem_dateTexts_iff.2 ⟨d, hwf, rfl⟩
      | _ => simp [Lexeme.category, Category.operator?] at hl
  | _ => exact absurd hop Bool.false_ne_true

/-- **What is classified with an operator are its texts.** -/
theorem classify_eq_some_iff_mem_grammar {op : Operator} :
    classify cs = some op ↔ cs ∈ op.grammar := by
  by_cases hop : op.isDate = true
  · rw [Operator.mem_grammar_iff_of_isDate hop]
    constructor
    · exact fun h ↦ exists_of_classify_isDate h hop
    · rintro ⟨l, hl, hlop, hwf, rfl⟩
      rw [classify_chars_of_isDated hl hwf, hlop]
  · cases op with
    | or => rw [classify_eq_or_iff, Operator.grammar, mem_alternatives_iff]
    | like => exact iff_of_false (fun h ↦ (eq_or_or_isDate_of_classify h).elim nofun hop) id
    | not => exact iff_of_false (fun h ↦ (eq_or_or_isDate_of_classify h).elim nofun hop) id
    | _ => exact absurd rfl hop

/-! ## One shape -/

/-- **Shapes exclude each other.**  What classifies is the match of a shape with the whole text, no
two shapes match one text, and so they can be tried in any order.  The texts of each operator are
those of its grammar, and others have none. -/
theorem shapes_are_disjoint (cs : List Char) :
    (∀ κ ∈ Category.classifying, κ.describes cs = true ↔ κ.shape.MatchesWhole cs) ∧
    (∀ κ ∈ Category.classifying, ∀ κ' ∈ Category.classifying,
      κ.shape.MatchesWhole cs → κ'.shape.MatchesWhole cs → κ = κ') ∧
    (∀ order : List Category, order.Perm Category.classifying →
      (order.find? (·.describes cs)).bind (·.operator?) = classify cs) ∧
    (∀ op, classify cs = some op ↔ cs ∈ op.grammar) ∧
    (classify cs = none ↔ ∀ op : Operator, cs ∉ op.grammar) := by
  refine ⟨fun κ hκ ↦ Category.describes_iff_matchesWhole hκ, fun κ hκ κ' hκ' h h' ↦ ?_,
    fun order horder ↦ ?_, fun op ↦ classify_eq_some_iff_mem_grammar, ?_⟩
  · exact Category.eq_of_describes hκ hκ' ((Category.describes_iff_matchesWhole hκ).2 h)
      ((Category.describes_iff_matchesWhole hκ').2 h')
  · rw [Category.find?_describes_of_perm horder, classify]
  · rw [Option.eq_none_iff_forall_ne_some]
    exact forall_congr' fun op ↦ not_congr classify_eq_some_iff_mem_grammar

/-- A range from a date with slashes to a compact one, with the shapes tried backwards. -/
theorem shapes_are_disjoint_backwards :
    Category.classifying.reverse.Perm Category.classifying ∧
      (Category.classifying.reverse.find? (·.describes "2009/1/5 TO 20090115".toList)).bind
        (·.operator?) = some .betweenDates := by
  refine ⟨Category.classifying.reverse_perm, ?_⟩
  rw [(shapes_are_disjoint _).2.2.1 _ Category.classifying.reverse_perm]
  decide +kernel

end SearchFilter
