import SearchFilter.Proofs.Conditions
import SearchFilter.Proofs.Lexeme.Quotes

/-!
# Which queries put no condition on the data

Whoever applies no conditions lets everything through, so it matters which queries give none: those
without a word character in which every text between quotes is cleaned away.

* `Lexeme.exists_phrase`: a lexeme without word characters is a phrase.
* `clean_chars_phrase_eq_nil_iff`: which phrases are cleaned away.
* `Course.clean_eq_nil_iff`: by the quotes of the query, and what stands between and before them.
* `parse_eq_nil_iff`: which queries give no conditions.
-/

set_option autoImplicit false

namespace SearchFilter

open Unicode

/-! ## Texts that are cleaned away -/

theorem collapseSpaces_eq_nil_iff {cs : List Char} : collapseSpaces false cs = [] ↔ cs = [] := by
  cases cs <;> simp [collapseSpaces]

theorem dropDashes_false_eq_nil_iff {cs : List Char} : dropDashes false cs = [] ↔ cs = [] := by
  cases cs <;> simp [dropDashes]

theorem dropDashes_true_eq_nil_iff {cs : List Char} :
    dropDashes true cs = [] ↔ cs = [] ∨ cs = ['-'] := by
  cases cs with
  | nil => simp [dropDashes]
  | cons c cs =>
    by_cases hc : c = '-'
    · simp [dropDashes, hc, dropDashes_false_eq_nil_iff]
    · simp [dropDashes, hc]

/-- **A phrase is cleaned away** when it is empty, or a single hyphen and not negated. -/
theorem clean_chars_phrase_eq_nil_iff {content : List Char} (h : '"' ∉ content) (negated : Bool) :
    clean (Lexeme.phrase negated content).chars = [] ↔
      content = [] ∨ content = ['-'] ∧ negated = false := by
  have hcontent : content.filter (· != '"') = content := by
    refine List.filter_eq_self.2 fun c hc ↦ bne_iff_ne.2 ?_
    rintro rfl
    exact h hc
  have hfilter : (Lexeme.phrase negated content).chars.filter (· != '"') =
      Lexeme.dash negated ++ content := by
    cases negated <;> simp [Lexeme.chars, Lexeme.dash, Term.chars, hcontent]
  rw [clean, hfilter, collapseSpaces_eq_nil_iff]
  cases negated with
  | true => simp [Lexeme.dash, dropDashes, dropDashes_false_eq_nil_iff]
  | false => simp [Lexeme.dash, dropDashes_true_eq_nil_iff]

/-! ## Lexemes without word characters -/

/-- **A lexeme without word characters is a phrase.** -/
theorem Lexeme.exists_phrase {l : Lexeme} (h : l.IsWellFormed)
    (hword : ∀ c ∈ l.chars, isWordChar c = false) :
    ∃ negated content, l = phrase negated content := by
  have hdate : ∀ {d : WrittenDate}, d.isWellFormed = true → ∃ c ∈ d.chars, isWordChar c = true := by
    intro d hd
    obtain ⟨c, cs, hcs, hc⟩ := d.exists_cons hd
    exact ⟨c, hcs ▸ List.mem_cons_self, isWordChar_of_isDigit hc⟩
  have hex : (∃ c ∈ l.chars, isWordChar c = true) → False := by
    rintro ⟨c, hc, hc'⟩
    exact Bool.false_ne_true ((hword c hc).symm.trans hc')
  cases l with
  | phrase negated content => exact ⟨negated, content, rfl⟩
  | dateRange first gap gap' last =>
    obtain ⟨c, hc, hc'⟩ := hdate h.1
    exact (hex ⟨c, by simp [chars, hc], hc'⟩).elim
  | comparedDate comparison gap d =>
    obtain ⟨c, hc, hc'⟩ := hdate h.2
    exact (hex ⟨c, by simp [chars, hc], hc'⟩).elim
  | date d => exact (hex (hdate h)).elim
  | orPair left gap gap' right =>
    have hO : isWordChar 'O' = true := by decide +kernel
    exact (hex ⟨'O', by simp [chars], hO⟩).elim
  | word negated w =>
    obtain ⟨c, cs, rfl, hc⟩ := IsWord.exists_cons h
    exact (hex ⟨c, by simp [chars], hc⟩).elim

/-! ## Phrases and the quotes of a query -/

/-- Whether nothing is left of the text between the quotes at `i` and `j`: it is empty, or a single
hyphen with no hyphen before the quotes. -/
def IsVoid (cs : List Char) (i j : Nat) : Prop :=
  cs.extract (i + 1) j = [] ∨ cs.extract (i + 1) j = ['-'] ∧ (cs.take i).getLast? ≠ some '-'

theorem quotePlaces_phrase {content : List Char} (h : '"' ∉ content) (negated : Bool)
    (start : Nat) :
    quotePlaces start (Lexeme.phrase negated content).chars =
      [start + (Lexeme.dash negated).length,
        start + (Lexeme.dash negated).length + 1 + content.length] := by
  have hdash : '"' ∉ Lexeme.dash negated := by cases negated <;> decide
  rw [Lexeme.chars, Term.chars, quotePlaces_append, quotePlaces_eq_nil hdash, quotePlaces_quote,
    quotePlaces_append, quotePlaces_eq_nil h, quotePlaces_quote,
    quotePlaces_eq_nil List.not_mem_nil, List.nil_append, List.nil_append]

namespace Course

variable {cs content : List Char} {os : List Occurrence} {o : Occurrence} {negated : Bool}

/-- Where a phrase that is not negated stands behind a hyphen, another lexeme ends: else the hyphen
would be its own. -/
theorem exists_stop_eq_of_prev_eq_hyphen (h : Course cs 0 os) (ho : o ∈ os)
    (hl : o.lexeme = .phrase false content)
    (hprev : (Position.ofIndex cs o.start).prev = some '-') : ∃ o' ∈ os, o'.stop = o.start := by
  obtain ⟨n, hn⟩ : ∃ n, o.start = n + 1 := by
    refine Nat.exists_eq_succ_of_ne_zero fun hzero ↦ ?_
    rw [hzero] at hprev
    exact Option.some_ne_none _ hprev.symm
  have hspan := h.start_lt_stop ho
  have hlt : n < cs.length := by
    have hstop := h.stop_le_length ho
    omega
  have hhyphen : cs[n] = '-' := by
    rw [hn, Position.ofIndex_succ hlt] at hprev
    exact Option.some.inj hprev
  -- with the hyphen the phrase would be negated, and start one character earlier
  have htake : (Position.ofIndex cs n).take? ≠ none := by
    have hwf : (Lexeme.phrase true content).IsWellFormed := by
      have hwf := h.isWellFormed ho
      rwa [hl] at hwf
    have hrest : (Position.ofIndex cs n).rest =
        (Lexeme.phrase true content).chars ++ cs.drop o.stop := by
      rw [Position.ofIndex_eq_cons hlt, hhyphen, ← hn, h.drop_start ho, hl]
      rfl
    rw [Position.take?, hrest]
    exact Lexeme.take?_chars_append_ne_none trivial hwf trivial
  obtain ⟨o', ho', hin⟩ := h.exists_mem_of_take?_ne_none (Nat.zero_le n) htake
  have hne : o' ≠ o := by
    rintro rfl
    omega
  have hcut := h.disjoint ho' ho hne
  exact ⟨o', ho', by omega⟩

/-- **Among phrases one that is not negated stands behind no hyphen**: no phrase ends in one. -/
theorem prev_ne_hyphen (h : Course cs 0 os)
    (hall : ∀ o ∈ os, ∃ negated content, o.lexeme = .phrase negated content) (ho : o ∈ os)
    (hl : o.lexeme = .phrase false content) : (Position.ofIndex cs o.start).prev ≠ some '-' := by
  intro hprev
  obtain ⟨o', ho', hstop⟩ := h.exists_stop_eq_of_prev_eq_hyphen ho hl hprev
  obtain ⟨negated, content', hl'⟩ := hall o' ho'
  have hlast := h.prev_stop ho'
  rw [hstop, hprev, hl', Lexeme.chars, Term.chars, List.getLast?_append] at hlast
  simp [List.getLast?_cons] at hlast

/-- Before the quotes of a phrase stands its own hyphen or none. -/
theorem getLast?_take_eq_hyphen_iff (h : Course cs 0 os)
    (hall : ∀ o ∈ os, ∃ negated content, o.lexeme = .phrase negated content) (ho : o ∈ os)
    (hl : o.lexeme = .phrase negated content) :
    (cs.take (o.start + (Lexeme.dash negated).length)).getLast? = some '-' ↔ negated = true := by
  cases negated with
  | true =>
    have hdrop := h.drop_start ho
    rw [hl, Lexeme.chars, List.append_assoc] at hdrop
    exact ⟨fun _ ↦ rfl, fun _ ↦ congrArg Position.prev (Position.ofIndex_add hdrop)⟩
  | false =>
    have hne : (cs.take o.start).getLast? ≠ some '-' := h.prev_ne_hyphen hall ho hl
    simpa [Lexeme.dash] using hne

/-- Between the quotes of a phrase stands its content. -/
theorem extract_eq_content (h : Course cs 0 os) (ho : o ∈ os)
    (hl : o.lexeme = .phrase negated content) :
    cs.extract (o.start + (Lexeme.dash negated).length + 1)
      (o.start + (Lexeme.dash negated).length + 1 + content.length) = content := by
  rw [List.extract_eq_take_drop, Nat.add_sub_cancel_left, ← List.drop_drop, ← List.drop_drop,
    h.drop_start ho, hl, Lexeme.chars, Term.chars, List.append_assoc, List.drop_left]
  simp

/-- **A phrase is cleaned away when nothing is left between its quotes.** -/
theorem clean_eq_nil_iff (h : Course cs 0 os)
    (hall : ∀ o ∈ os, ∃ negated content, o.lexeme = .phrase negated content) (ho : o ∈ os) :
    clean o.lexeme.chars = [] ↔
      ∀ p ∈ pairs (quotePlaces o.start o.lexeme.chars), IsVoid cs p.1 p.2 := by
  obtain ⟨negated, content, hl⟩ := hall o ho
  have hwf : (Lexeme.phrase negated content).IsWellFormed := hl ▸ h.isWellFormed ho
  rw [hl, clean_chars_phrase_eq_nil_iff hwf, quotePlaces_phrase hwf]
  simp only [pairs, List.mem_singleton, forall_eq, IsVoid, h.extract_eq_content ho hl, ne_eq,
    h.getLast?_take_eq_hyphen_iff hall ho hl, Bool.not_eq_true]

end Course

/-! ## Queries without conditions -/

theorem Query.value_parse_eq_nil_iff (q : String) :
    (Query.parse (some q)).value = [] ↔
      ∀ o ∈ scan (q.toList.take maxLength), clean o.lexeme.chars = [] := by
  rw [← List.map_eq_nil_iff (f := fun c ↦ c.value.toList), value_parse,
    map_value_buildConditions, List.filter_eq_nil_iff, List.forall_mem_map]
  simp

/-- What cleans away to nothing has no word characters. -/
theorem isWordChar_eq_false_of_clean_eq_nil {cs : List Char}
    (h : ∀ o ∈ scan cs, clean o.lexeme.chars = []) : ∀ c ∈ cs, isWordChar c = false := by
  have hfilter : cs.filter isWordChar = [] := by
    rw [← (walk_scan cs).filter_isWordChar, List.filter_flatMap, List.flatMap_eq_nil_iff]
    intro o ho
    rw [← filter_isWordChar_clean, h o ho, List.filter_nil]
  simpa using List.filter_eq_nil_iff.1 hfilter

theorem exists_phrase_of_mem_scan {cs : List Char} (h : ∀ c ∈ cs, isWordChar c = false)
    {o : Occurrence} (ho : o ∈ scan cs) :
    ∃ negated content, o.lexeme = .phrase negated content := by
  have hcourse := course_scan cs
  refine Lexeme.exists_phrase (hcourse.isWellFormed ho) fun c hc ↦ h c ?_
  refine List.mem_of_mem_drop (i := o.start) ?_
  rw [hcourse.drop_start ho]
  exact List.mem_append_left _ hc

/-- **Which queries put no condition on the data**: those without a word character in which of no
text between two paired quotes anything is left. -/
theorem parse_eq_nil_iff (q : String) :
    (Query.parse (some q)).value = [] ↔
      (∀ c ∈ q.toList.take Query.maxLength, isWordChar c = false) ∧
        ∀ p ∈ pairs (quotePlaces 0 (q.toList.take Query.maxLength)),
          IsVoid (q.toList.take Query.maxLength) p.1 p.2 := by
  rw [Query.value_parse_eq_nil_iff, pairs_quotePlaces]
  generalize q.toList.take Query.maxLength = cs
  have hclean (hword : ∀ c ∈ cs, isWordChar c = false) {o : Occurrence} (ho : o ∈ scan cs) :=
    (course_scan cs).clean_eq_nil_iff (fun _ ↦ exists_phrase_of_mem_scan hword) ho
  constructor
  · intro h
    have hword := isWordChar_eq_false_of_clean_eq_nil h
    refine ⟨hword, fun p hp ↦ ?_⟩
    obtain ⟨o, ho, hp⟩ := List.mem_flatMap.1 hp
    exact (hclean hword ho).1 (h o ho) p hp
  · rintro ⟨hword, hvoid⟩ o ho
    refine (hclean hword ho).2 fun p hp ↦ hvoid p ?_
    exact List.mem_flatMap.2 ⟨o, ho, hp⟩

example : (Query.parse (some "!! \"\" \"-\" \"")).value = [] := by decide +kernel

example : (Query.parse (some "-\"-\"")).value = [⟨"-", .not⟩] := by decide +kernel

end SearchFilter
