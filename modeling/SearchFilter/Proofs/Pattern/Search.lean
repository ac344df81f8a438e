import SearchFilter.Proofs.Lexeme.Span
import SearchFilter.Proofs.Pattern.Preferred

/-!
# Searching for patterns

All categories can be searched for at once, by a pattern with one branch for each: blanks, and then
the pattern of the category, which alone is captured.  Of two matches the search prefers the one
that starts first, and of those that start alike the one of the first branch.  It finds what the
scan lists.

* `Category.branch` and `Finding.all` list the matches of one branch and of all.
* `Search` is the search through a text; `search_iff` says what it finds.
* `scan_leftmost_first`: the lexemes of a query are the leftmost matches of the first category that
  has one.
-/

set_option autoImplicit false

namespace SearchFilter

open Unicode Pattern

/-! ## The search -/

/-- A category that was matched, and where what is captured starts and ends. -/
structure Finding where
  category : Category
  start : Position
  stop : Position

/-- The matches of the branch of a category: blanks may come before what is captured. -/
def Category.branch (category : Category) (x : Position) : List Finding :=
  ((many (one isBlank)).tries x).flatMap fun y ↦
    (category.pattern.tries y).map fun z ↦ ⟨category, y, z⟩

/-- The matches of all branches at a position, in the order in which they are tried. -/
def Finding.all (x : Position) : List Finding :=
  Category.all.flatMap (·.branch x)

/-- The search from a position on: at the first position with a match the preferred one is found,
and the search goes on behind it. -/
inductive Search : Position → List Finding → Prop
  | done {prev : Option Char} (h : Finding.all ⟨prev, []⟩ = []) : Search ⟨prev, []⟩ []
  | skip {prev : Option Char} {c : Char} {cs : List Char} {fs : List Finding}
      (h : Finding.all ⟨prev, c :: cs⟩ = []) (hs : Search ⟨some c, cs⟩ fs) :
      Search ⟨prev, c :: cs⟩ fs
  | found {x : Position} {f : Finding} {fs : List Finding} (h : (Finding.all x).head? = some f)
      (hs : Search f.stop fs) : Search x (f :: fs)

/-- What is found is determined. -/
theorem Search.unique {x : Position} {fs gs : List Finding} (hf : Search x fs)
    (hg : Search x gs) : fs = gs := by
  induction hf generalizing gs with
  | done h =>
    cases hg with
    | done _ => rfl
    | found h' _ => simp [h] at h'
  | skip h _ ih =>
    cases hg with
    | skip _ hs' => exact ih hs'
    | found h' _ => simp [h] at h'
  | found h _ ih =>
    cases hg with
    | done h' => simp [h'] at h
    | skip h' _ => simp [h'] at h
    | found h' hs' =>
      obtain rfl := Option.some.inj (h.symm.trans h')
      rw [ih hs']

/-! ## The branches -/

theorem Category.tries_pattern_eq_nil_iff {category : Category} {x : Position} :
    category.pattern.tries x = [] ↔ category.take? x.prev x.rest = none := by
  rw [← List.head?_eq_none_iff, head?_tries_pattern, Option.map_eq_none_iff]

/-- Nothing starts with a blank, so a branch passes over it. -/
theorem Category.branch_of_isBlank {c : Char} (hc : isBlank c = true) (category : Category)
    (prev : Option Char) (cs : List Char) :
    category.branch ⟨prev, c :: cs⟩ = category.branch ⟨some c, cs⟩ := by
  have htries : (many (one isBlank)).tries ⟨prev, c :: cs⟩ =
      (many (one isBlank)).tries ⟨some c, cs⟩ ++ [⟨prev, c :: cs⟩] := by
    rw [tries_many, tries, if_pos hc]
    simp
  have hnone : category.pattern.tries ⟨prev, c :: cs⟩ = [] := by
    refine tries_pattern_eq_nil_iff.2 (take?_eq_none (Bool.eq_false_iff.2 fun hopen ↦ ?_) prev cs)
    rw [isBlank_eq_false_of_opensWith hopen] at hc
    exact Bool.false_ne_true hc
  rw [branch, htries, List.flatMap_append, List.flatMap_singleton, hnone, List.map_nil,
    List.append_nil]
  rfl

/-- Where no blank stands, a branch captures at once. -/
theorem Category.branch_of_not_blank {x : Position} (hx : startsWithBlank x.rest = false)
    (category : Category) :
    category.branch x = (category.pattern.tries x).map fun z ↦ ⟨category, x, z⟩ := by
  have htries : (many (one isBlank)).tries x = [x] := by
    obtain ⟨prev, rest⟩ := x
    cases rest with
    | nil =>
      rw [tries_many, tries]
      rfl
    | cons c cs =>
      have hc : isBlank c = false := hx
      rw [tries_many, tries, hc]
      rfl
  rw [branch, htries, List.flatMap_singleton]

theorem Finding.all_of_isBlank {c : Char} (hc : isBlank c = true) (prev : Option Char)
    (cs : List Char) : all ⟨prev, c :: cs⟩ = all ⟨some c, cs⟩ := by
  simp only [all, Category.branch_of_isBlank hc]

/-- **The preferred match is the lexeme that is taken**, where no blank stands. -/
theorem Finding.head?_all {x : Position} (hx : startsWithBlank x.rest = false) :
    (all x).head? = x.take?.map fun (l, rest) ↦ ⟨l.category, x, x.behind l.chars rest⟩ := by
  have hbranch : ∀ category : Category, (category.branch x).head? =
      (category.take? x.prev x.rest).map
        fun (l, rest) ↦ ⟨l.category, x, x.behind l.chars rest⟩ := by
    intro category
    rw [Category.branch_of_not_blank hx, List.head?_map, Category.head?_tries_pattern,
      Option.map_map]
    refine Option.map_congr ?_
    rintro ⟨l, rest⟩ htake
    obtain rfl : l.category = category := (Category.take?_eq_some_iff.1 htake).1
    rfl
  rw [all, List.head?_flatMap, Position.take?, Lexeme.take?, List.map_findSome?]
  exact congrArg (List.findSome? · Category.all) (funext hbranch)

theorem Finding.all_eq_nil {x : Position} (hx : startsWithBlank x.rest = false)
    (htake : x.take? = none) : all x = [] := by
  rw [← List.head?_eq_none_iff, head?_all hx, htake, Option.map_none]

/-! ## What is found -/

/-- A lexeme of a text as the search finds it. -/
def Occurrence.finding (cs : List Char) (o : Occurrence) : Finding :=
  ⟨o.lexeme.category, .ofIndex cs o.start, .ofIndex cs o.stop⟩

/-- Blanks may be left for the branches to pass over. -/
theorem Search.of_isBlank {c : Char} (hc : isBlank c = true) {prev : Option Char} {cs : List Char}
    {fs : List Finding} (h : Search ⟨some c, cs⟩ fs) : Search ⟨prev, c :: cs⟩ fs := by
  have hall := Finding.all_of_isBlank hc prev cs
  cases h with
  | done hnone => exact .skip (hall.trans hnone) (.done hnone)
  | skip hnone hs => exact .skip (hall.trans hnone) (.skip hnone hs)
  | found hsome hs => exact .found (hall ▸ hsome) hs

theorem Course.search {cs : List Char} {i : Nat} {os : List Occurrence} (h : Course cs i os) :
    Search (.ofIndex cs i) (os.map (·.finding cs)) := by
  induction h with
  | done =>
    rw [Position.ofIndex, List.drop_length]
    exact .done (Finding.all_eq_nil rfl (Lexeme.take?_nil _))
  | @pass i os hi htake _ ih =>
    rw [Position.ofIndex_succ hi] at ih
    rw [Position.ofIndex_eq_cons hi] at htake ⊢
    by_cases hc : isBlank cs[i] = true
    · exact ih.of_isBlank hc
    · exact .skip (Finding.all_eq_nil (Bool.eq_false_iff.2 hc) htake) ih
  | @take i l os htake _ ih =>
    obtain ⟨-, hwf, -, hrest⟩ := Lexeme.of_take?_eq_some htake
    have hblank : startsWithBlank (Position.ofIndex cs i).rest = false := by
      rw [hrest]
      exact Lexeme.startsWithBlank_chars_append hwf _
    refine .found ?_ ih
    have hstop : Position.ofIndex cs (i + l.chars.length) =
        (Position.ofIndex cs i).behind l.chars (cs.drop (i + l.chars.length)) :=
      Position.ofIndex_add hrest
    rw [Finding.head?_all hblank, htake]
    exact congrArg (fun stop ↦ some (Finding.mk l.category (.ofIndex cs i) stop)) hstop.symm

/-- **The search finds what the scan lists.** -/
theorem search_iff {cs : List Char} {fs : List Finding} :
    Search (.ofIndex cs 0) fs ↔ fs = (scan cs).map (·.finding cs) := by
  have hsearch := (course_scan cs).search
  exact ⟨fun h ↦ h.unique hsearch, fun h ↦ h ▸ hsearch⟩

/-! ## The lexemes of a query and the patterns -/

theorem matchesAt_eq_false_iff {category : Category} {cs : List Char} {i : Nat} :
    category.pattern.matchesAt cs i = false ↔
      category.take? (Position.ofIndex cs i).prev (Position.ofIndex cs i).rest = none := by
  rw [matchesAt, Bool.not_eq_false', List.isEmpty_iff, Category.tries_pattern_eq_nil_iff]

/-- What is taken is of the first category of which the pattern matches. -/
theorem find?_matchesAt {cs rest : List Char} {i : Nat} {l : Lexeme}
    (h : (Position.ofIndex cs i).take? = some (l, rest)) :
    Category.all.find? (·.pattern.matchesAt cs i) = some l.category := by
  obtain ⟨htake, hbefore⟩ := Lexeme.take?_eq_some_iff.1 h
  obtain ⟨after, hall⟩ := l.category.all_eq
  refine List.find?_eq_some_iff_append.2 ⟨?_, l.category.before, after, hall, fun κ hκ ↦ ?_⟩
  · rw [← Bool.not_eq_false, matchesAt_eq_false_iff, htake]
    exact Option.some_ne_none _
  · rw [Bool.not_eq_true', matchesAt_eq_false_iff, hbefore κ hκ]

/-- **The scan takes the leftmost match, and of those that start there the first category's.**  The
search for the patterns of all categories finds the lexemes of a query.  They stand one behind the
other, none is empty and none starts with a blank.  Each is of the first category of which the
pattern matches where it starts, and outside of them no pattern matches. -/
theorem scan_leftmost_first (cs : List Char) :
    (∀ fs, Search (.ofIndex cs 0) fs ↔ fs = (scan cs).map (·.finding cs)) ∧
    (scan cs).Pairwise (fun o o' ↦ o.stop ≤ o'.start) ∧
    (∀ o ∈ scan cs, o.start < o.stop ∧ o.stop ≤ cs.length ∧
      o.lexeme.chars = cs.extract o.start o.stop ∧ startsWithBlank o.lexeme.chars = false ∧
      Category.all.find? (·.pattern.matchesAt cs o.start) = some o.lexeme.category) ∧
    ∀ i, (∀ o ∈ scan cs, i < o.start ∨ o.stop ≤ i) →
      ∀ category : Category, category.pattern.matchesAt cs i = false := by
  have hcourse := course_scan cs
  refine ⟨fun fs ↦ search_iff, hcourse.pairwise, fun o ho ↦ ?_, fun i hout category ↦ ?_⟩
  · have hblank : startsWithBlank o.lexeme.chars = false := by
      simpa using Lexeme.startsWithBlank_chars_append (hcourse.isWellFormed ho) []
    exact ⟨hcourse.start_lt_stop ho, hcourse.stop_le_length ho, hcourse.chars_eq_extract ho, hblank,
      find?_matchesAt (hcourse.take?_of_mem ho)⟩
  · have hnone := hcourse.take?_eq_none (Nat.zero_le i) hout
    exact matchesAt_eq_false_iff.2 (Lexeme.take?_eq_none_iff.1 hnone category)

end SearchFilter
