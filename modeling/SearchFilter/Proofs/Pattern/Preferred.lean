import SearchFilter.Proofs.Pattern.Category

/-!
# The preferred match of a category

A word can be matched in shorter parts than it is taken in, and so can a pair whose second side is a
word.  The pattern prefers the longest, which is the one that is taken.

* `mem_tries_word`: what a word can be matched as.
* `head?_tries_word`, `head?_tries_term`: words and terms are matched as long as they can be.
* `Category.head?_tries_pattern`: the preferred match of a category is the lexeme that is taken.
-/

set_option autoImplicit false

namespace SearchFilter

open Unicode Pattern Computability

/-! ## Words -/

/-- The texts of words. -/
def words : Language Char := {w | IsWord w}

theorem mem_words {w : List Char} : w ∈ words ↔ IsWord w := Iff.rfl

theorem isWord_run_append {run tail : List Char} (hrun : run ∈ runs isWordChar (0 < ·))
    (htail : tail = [] ∨ ∃ j w, isJoiner j = true ∧ IsWord w ∧ tail = j :: w) :
    IsWord (run ++ tail) := by
  obtain ⟨hpos, hrun⟩ := hrun
  induction run with
  | nil => exact absurd hpos (Nat.lt_irrefl 0)
  | cons c run ih =>
    obtain ⟨hc, hrun⟩ := List.forall_mem_cons.1 hrun
    cases run with
    | nil =>
      rcases htail with rfl | ⟨j, w, hj, hw, rfl⟩
      · exact .single hc
      · exact .join hc hj hw
    | cons d run => exact .cons hc (ih (Nat.succ_pos _) hrun)

/-- A word starts with a run of word characters, and each of its joiners has another one behind
it. -/
theorem words_eq : words =
    runs isWordChar (0 < ·) * (runs isJoiner (· = 1) * runs isWordChar (0 < ·))∗ := by
  ext w
  rw [Language.mem_mul, mem_words]
  constructor
  · intro hw
    induction hw with
    | single hc => exact ⟨[_], ⟨Nat.one_pos, by simpa using hc⟩, [], Language.nil_mem_kstar _, rfl⟩
    | @cons c w hc _ ih =>
      obtain ⟨run, hrun, tail, htail, rfl⟩ := ih
      exact ⟨c :: run, ⟨Nat.succ_pos _, List.forall_mem_cons.2 ⟨hc, hrun.2⟩⟩, tail, htail, rfl⟩
    | @join c j w hc hj _ ih =>
      obtain ⟨run, hrun, tail, htail, rfl⟩ := ih
      obtain ⟨parts, rfl, hparts⟩ := htail
      refine ⟨[c], ⟨Nat.one_pos, by simpa using hc⟩, _, ⟨(j :: run) :: parts, rfl, ?_⟩, rfl⟩
      exact List.forall_mem_cons.2 ⟨⟨[j], ⟨rfl, by simpa using hj⟩, run, hrun, rfl⟩, hparts⟩
  · rintro ⟨run, hrun, _, ⟨parts, rfl, hparts⟩, rfl⟩
    induction parts generalizing run with
    | nil => exact isWord_run_append hrun (.inl rfl)
    | cons part parts ih =>
      obtain ⟨⟨_, ⟨hlen, hj⟩, run', hrun', rfl⟩, hparts'⟩ := List.forall_mem_cons.1 hparts
      obtain ⟨j, rfl⟩ := List.length_eq_one_iff.1 hlen
      have hword := ih run' hrun' hparts'
      refine isWord_run_append hrun (.inr ⟨j, _, hj j (List.mem_singleton_self j), hword, ?_⟩)
      simp

theorem mem_tries_word {x y : Position} :
    y ∈ Pattern.word.tries x ↔ ∃ w, IsWord w ∧ x.Passes w y := by
  have hrun := spells_oneOrMore_one isWordChar
  have hword : Pattern.word.Spells words :=
    words_eq ▸ hrun.append ((spells_one isJoiner).append hrun).many
  exact hword x y

/-! ## Going on as long as it can -/

theorem startsWithWordChar_eq (cs : List Char) :
    startsWithWordChar cs = cs.head?.any isWordChar := by
  cases cs <;> rfl

theorem startsWithWordChar_dropWhile (cs : List Char) :
    startsWithWordChar (cs.dropWhile isWordChar) = false := by
  rw [startsWithWordChar_eq]
  exact head?_any_dropWhile isWordChar cs

theorem head?_tries_joined {prev : Option Char} {c : Char} {cs : List Char} :
    (joined.tries ⟨prev, c :: cs⟩).head? =
      if isJoiner c && startsWithWordChar cs then
        some ⟨((cs.takeWhile isWordChar).getLast?).or (some c), cs.dropWhile isWordChar⟩
      else none := by
  rw [joined, tries_one_append, startsWithWordChar_eq]
  split
  · next hc =>
    rw [head?_tries_oneOrMore_one, hc, Bool.true_and]
    rfl
  · next hc => simp [hc]

theorem length_lt_of_mem_tries_joined {x y : Position} (h : y ∈ joined.tries x) :
    y.rest.length < x.rest.length := by
  obtain ⟨z, hz, hy⟩ := mem_tries_append.1 h
  obtain ⟨c, -, hc⟩ := mem_tries_one.1 hz
  obtain ⟨run, -, hrun⟩ := (spells_oneOrMore_one isWordChar z y).1 hy
  rw [hc.length, hrun.length, List.length_singleton]
  omega

/-- Where the joined runs of a word end, no other one follows. -/
theorem continuesWord_of_head?_tries_many_joined {x y : Position}
    (hx : startsWithWordChar x.rest = false) (h : (joined.many.tries x).head? = some y) :
    continuesWord y.rest = false := by
  induction hn : x.rest.length using Nat.strongRecOn generalizing x with
  | ind n ih =>
    subst hn
    rw [head?_tries_many fun _ ↦ length_lt_of_mem_tries_joined] at h
    obtain ⟨prev, rest⟩ := x
    cases rest with
    | nil =>
      obtain rfl : ⟨prev, []⟩ = y := Option.some.inj h
      rfl
    | cons c cs =>
      cases hnext : (joined.tries ⟨prev, c :: cs⟩).head? with
      | none =>
        obtain rfl : ⟨prev, c :: cs⟩ = y := by
          rw [hnext] at h
          exact Option.some.inj h
        have hc : isWordChar c = false := hx
        have hj : (isJoiner c && startsWithWordChar cs) = false := by
          simpa [head?_tries_joined] using hnext
        rw [continuesWord, hc, hj, Bool.or_false]
      | some z =>
        have hlt := length_lt_of_mem_tries_joined (List.mem_of_mem_head? hnext)
        have hz : startsWithWordChar z.rest = false := by
          rw [head?_tries_joined, Option.ite_none_right_eq_some, Option.some.injEq] at hnext
          obtain ⟨-, rfl⟩ := hnext
          exact startsWithWordChar_dropWhile cs
        rw [hnext, Option.elim_some] at h
        exact ih _ hlt hz h rfl

/-- **A word is matched as long as it can be.** -/
theorem head?_tries_word (x : Position) : (Pattern.word.tries x).head? =
    (takeWord? x.rest).map fun (w, rest) ↦ x.behind w rest := by
  refine head?_tries_eq_map (fun y hy ↦ ?_) fun ⟨w, rest⟩ htake ↦ ?_
  · obtain ⟨w, hw, hpass⟩ := mem_tries_word.1 (List.mem_of_mem_head? hy)
    have hend : continuesWord y.rest = false := by
      rw [Pattern.word, head?_tries_append_of_total (many_tries_ne_nil _),
        Option.bind_eq_some_iff] at hy
      obtain ⟨z, hz, hy⟩ := hy
      rw [head?_tries_oneOrMore_one, Option.ite_none_right_eq_some, Option.some.injEq] at hz
      obtain ⟨-, rfl⟩ := hz
      exact continuesWord_of_head?_tries_many_joined (startsWithWordChar_dropWhile _) hy
    exact ⟨(w, y.rest), takeWord?_eq_some_iff.2 ⟨hw, hend, hpass.1⟩, hpass.eq_behind.symm⟩
  · obtain ⟨hw, -, hrest⟩ := takeWord?_eq_some_iff.1 htake
    exact mem_tries_word.2 ⟨w, hw, hrest, rfl⟩

theorem mem_tries_quoted_term {x y : Position} :
    y ∈ (quoted (oneOrMore (one (· != '"')))).tries x ↔
      ∃ content, (Term.quoted content).IsWellFormed ∧ x.Passes (Term.quoted content).chars y := by
  rw [mem_tries_quoted (spells_oneOrMore_one _)]
  simp only [mem_runs, List.length_pos_iff, forall_ne_quote_iff, Term.IsWellFormed]

theorem mem_tries_term {x y : Position} :
    y ∈ Pattern.term.tries x ↔ ∃ t : Term, t.IsWellFormed ∧ x.Passes t.chars y := by
  rw [Pattern.term, mem_tries_either, mem_tries_quoted_term, mem_tries_word]
  constructor
  · rintro (⟨content, hwf, hpass⟩ | ⟨w, hw, hpass⟩)
    · exact ⟨.quoted content, hwf, hpass⟩
    · exact ⟨.word w, hw, hpass⟩
  · rintro ⟨w | content, hwf, hpass⟩
    · exact .inr ⟨w, hwf, hpass⟩
    · exact .inl ⟨content, hwf, hpass⟩

/-- **A term is matched as long as it can be.** -/
theorem head?_tries_term (x : Position) : (Pattern.term.tries x).head? =
    (Term.take? x.rest).map fun (t, rest) ↦ x.behind t.chars rest := by
  refine head?_tries_eq_map (fun y hy ↦ ?_) fun ⟨t, rest⟩ htake ↦ ?_
  · have heither : Pattern.term.tries x =
        (quoted (oneOrMore (one (· != '"')))).tries x ++ Pattern.word.tries x := rfl
    rw [heither, List.head?_append, Option.or_eq_some_iff] at hy
    rcases hy with hy | ⟨-, hy⟩
    · obtain ⟨content, hwf, hpass⟩ := mem_tries_quoted_term.1 (List.mem_of_mem_head? hy)
      exact ⟨(.quoted content, y.rest), Term.take?_eq_some_iff.2 ⟨hwf, trivial, hpass.1⟩,
        hpass.eq_behind.symm⟩
    · rw [head?_tries_word, Option.map_eq_some_iff] at hy
      obtain ⟨⟨w, rest⟩, htake, rfl⟩ := hy
      exact ⟨(.word w, rest), Term.take?_eq_some_iff.2 (takeWord?_eq_some_iff.1 htake), rfl⟩
  · obtain ⟨hwf, -, hrest⟩ := Term.take?_eq_some_iff.1 htake
    exact mem_tries_term.2 ⟨t, hwf, hrest, rfl⟩

/-! ## Pairs -/

/-- What comes before the second side of a pair. -/
def Pattern.pairLead : Pattern := Pattern.term ++ Pattern.gap ++ text ['O', 'R'] ++ Pattern.gap

theorem mem_tries_pairLead {x y : Position} :
    y ∈ Pattern.pairLead.tries x ↔ ∃ (left : Term) (gap gap' : List Char), left.IsWellFormed ∧
      IsGap gap ∧ IsGap gap' ∧ x.Passes (left.chars ++ gap ++ ['O', 'R'] ++ gap') y := by
  simp only [Pattern.pairLead, mem_tries_append, mem_tries_term, mem_tries_gap, mem_tries_text,
    Position.passes_append]
  constructor
  · rintro ⟨z₂, ⟨z₁, ⟨z₀, ⟨left, hleft, hx⟩, gap, hgap, hpass⟩, hor⟩, gap', hgap', hpass'⟩
    exact ⟨left, gap, gap', hleft, hgap, hgap', z₂, ⟨z₁, ⟨z₀, hx, hpass⟩, hor⟩, hpass'⟩
  · rintro ⟨left, gap, gap', hleft, hgap, hgap', z₂, ⟨z₁, ⟨z₀, hx, hpass⟩, hor⟩, hpass'⟩
    exact ⟨z₂, ⟨z₁, ⟨z₀, ⟨left, hleft, hx⟩, gap, hgap, hpass⟩, hor⟩, gap', hgap', hpass'⟩

/-- With a second side behind it, what comes before makes a pair that is taken. -/
theorem exists_take?_orPair {x z : Position} (hz : z ∈ Pattern.pairLead.tries x) {right : Term}
    {rest : List Char} (hright : Term.take? z.rest = some (right, rest)) :
    ∃ (left : Term) (gap gap' : List Char),
      Category.orPair.take? x.prev x.rest = some (.orPair left gap gap' right, rest) ∧
        x.Passes (left.chars ++ gap ++ ['O', 'R'] ++ gap') z := by
  obtain ⟨left, gap, gap', hleft, hgap, hgap', hpass⟩ := mem_tries_pairLead.1 hz
  obtain ⟨hwf, hend, hrest⟩ := Term.take?_eq_some_iff.1 hright
  refine ⟨left, gap, gap', Category.take?_eq_some_iff.2
    ⟨rfl, trivial, ⟨hleft, hwf, hgap, hgap'⟩, hend, ?_⟩, hpass⟩
  rw [hpass.1, hrest, Lexeme.chars, ← List.append_assoc]

theorem head?_tries_orPair (x : Position) : (Category.orPair.pattern.tries x).head? =
    (Category.orPair.take? x.prev x.rest).map fun (l, rest) ↦ x.behind l.chars rest := by
  have hpattern : Category.orPair.pattern = Pattern.pairLead ++ Pattern.term := rfl
  have hterm : ∀ {z : Position}, Pattern.term.tries z ≠ [] →
      ∃ right rest, Term.take? z.rest = some (right, rest) := by
    intro z hne
    have hhead := head?_tries_term z
    cases htake : Term.take? z.rest with
    | none =>
      rw [htake, Option.map_none, List.head?_eq_none_iff] at hhead
      exact absurd hhead hne
    | some taken => exact ⟨_, _, rfl⟩
  refine head?_tries_eq_map (fun y hy ↦ ?_) fun ⟨l, rest⟩ htake ↦ ?_
  · rw [hpattern] at hy
    obtain ⟨z, hz, hyz⟩ := mem_tries_append.1 (List.mem_of_mem_head? hy)
    obtain ⟨right, rest, hright⟩ := hterm (List.ne_nil_of_mem hyz)
    obtain ⟨left, gap, gap', htake, hpass⟩ := exists_take?_orPair hz hright
    have hunique : ∀ w ∈ Pattern.pairLead.tries x, Pattern.term.tries w ≠ [] → w = z := by
      intro w hw hne
      obtain ⟨right', rest', hright'⟩ := hterm hne
      obtain ⟨left', gap₁, gap₁', htake', hpass'⟩ := exists_take?_orPair hw hright'
      rw [htake] at htake'
      obtain ⟨⟨rfl, rfl, rfl, -⟩, -⟩ : (left = left' ∧ gap = gap₁ ∧ gap' = gap₁' ∧ right = right') ∧
          rest = rest' := by simpa using htake'
      exact hpass'.unique hpass
    rw [head?_tries_append_of_unique hz hunique, head?_tries_term, hright, Option.map_some,
      Option.some.injEq] at hy
    refine ⟨_, htake, ?_⟩
    have hright' : z.Passes right.chars y := by
      rw [← hy]
      exact ⟨(Term.take?_eq_some_iff.1 hright).2.2, rfl⟩
    rw [(hpass.append hright').eq_behind, ← hy]
    rfl
  · obtain ⟨hl, -, hwf, -, hrest⟩ := Category.take?_eq_some_iff.1 htake
    cases l with
    | orPair left gap gap' right =>
      obtain ⟨hleft, hright, hgap, hgap'⟩ := hwf
      have hpass : x.Passes (Lexeme.orPair left gap gap' right).chars (x.behind _ rest) :=
        ⟨hrest, rfl⟩
      obtain ⟨z, hz, hpass⟩ := Position.passes_append.1 hpass
      rw [hpattern, mem_tries_append]
      exact ⟨z, mem_tries_pairLead.2 ⟨left, gap, gap', hleft, hgap, hgap', hz⟩,
        mem_tries_term.2 ⟨right, hright, hpass⟩⟩
    | _ => exact absurd hl (by simp [Lexeme.category])

/-! ## Every category -/

theorem Category.mem_tries_pattern_of_unique {category : Category}
    (h : category.isDated = true ∨ category = .string) {x y : Position} :
    y ∈ category.pattern.tries x ↔
      ∃ l, category.take? x.prev x.rest = some (l, y.rest) ∧ x.Passes l.chars y := by
  simp only [take?_eq_some_iff]
  rcases h with h | rfl
  · rw [mem_tries_pattern_of_isDated h]
    constructor
    · rintro ⟨l, hl, hprev, hwf, hend, hpass⟩
      exact ⟨l, ⟨hl, hprev, hwf, hend, hpass.1⟩, hpass⟩
    · rintro ⟨l, ⟨hl, hprev, hwf, hend, -⟩, hpass⟩
      exact ⟨l, hl, hprev, hwf, hend, hpass⟩
  · rw [mem_tries_string]
    constructor
    · rintro ⟨negated, content, hcontent, hpass⟩
      exact ⟨.phrase negated content, ⟨rfl, trivial, hcontent, trivial, hpass.1⟩, hpass⟩
    · rintro ⟨l, ⟨hl, -, hwf, -, -⟩, hpass⟩
      cases l with
      | phrase negated content => exact ⟨negated, content, hwf, hpass⟩
      | _ => exact absurd hl (by simp [Lexeme.category])

theorem Category.head?_tries_pattern_word (x : Position) :
    (Category.word.pattern.tries x).head? =
      (Category.word.take? x.prev x.rest).map fun (l, rest) ↦ x.behind l.chars rest := by
  obtain ⟨negated, rest, hdash⟩ : ∃ negated rest, takeDash x.rest = (negated, rest) := ⟨_, _, rfl⟩
  obtain ⟨hrest, hhead⟩ := takeDash_eq_iff.1 hdash
  have hz : x.Passes (Lexeme.dash negated) (x.behind (Lexeme.dash negated) rest) := ⟨hrest, rfl⟩
  have hmem : x.behind (Lexeme.dash negated) rest ∈ (optional (text ['-'])).tries x := by
    rw [mem_tries_optional, mem_tries_text]
    cases negated with
    | true => exact .inl hz
    | false => exact .inr (Position.passes_nil.1 hz)
  have hunique : ∀ y ∈ (optional (text ['-'])).tries x, Pattern.word.tries y ≠ [] →
      y = x.behind (Lexeme.dash negated) rest := by
    intro y hy hne
    rw [mem_tries_optional, mem_tries_text] at hy
    cases negated with
    | true =>
      refine hy.elim (fun hpass ↦ hpass.unique hz) fun hyx ↦ absurd ?_ hne
      -- a word does not start with the hyphen
      rw [← List.head?_eq_none_iff, head?_tries_word, hyx, hrest, Lexeme.dash, if_pos rfl,
        List.singleton_append, takeWord?, if_neg (by simp [startsWithWordChar, isWordChar_hyphen]),
        Option.map_none]
    | false =>
      refine hy.elim (fun hpass ↦ absurd ?_ (hhead rfl)) fun hyx ↦ ?_
      · rw [← show x.rest = rest from hrest, hpass.1]
        rfl
      · exact hyx.trans (Position.passes_nil.1 hz).symm
  have hpattern : Category.word.pattern = optional (text ['-']) ++ Pattern.word := rfl
  rw [hpattern, head?_tries_append_of_unique hmem hunique, head?_tries_word, take?, hdash]
  simp only [Option.map_map, Function.comp_def, Position.behind_behind, Lexeme.chars]
  rfl

/-- **The preferred match of a category is the lexeme that is taken.** -/
theorem Category.head?_tries_pattern (category : Category) (x : Position) :
    (category.pattern.tries x).head? =
      (category.take? x.prev x.rest).map fun (l, rest) ↦ x.behind l.chars rest := by
  by_cases h : category.isDated = true ∨ category = .string
  · have hmem := fun y ↦ mem_tries_pattern_of_unique h (x := x) (y := y)
    refine head?_tries_eq_map (fun y hy ↦ ?_) fun ⟨l, rest⟩ htake ↦ ?_
    · obtain ⟨l, htake, hpass⟩ := (hmem y).1 (List.mem_of_mem_head? hy)
      exact ⟨(l, y.rest), htake, hpass.eq_behind.symm⟩
    · have hrest := (take?_eq_some_iff.1 htake).2.2.2.2
      exact (hmem (x.behind l.chars rest)).2 ⟨l, htake, hrest, rfl⟩
  · cases category with
    | orPair => exact head?_tries_orPair x
    | word => exact head?_tries_pattern_word x
    | _ => exact absurd (by simp [isDated]) h

end SearchFilter
