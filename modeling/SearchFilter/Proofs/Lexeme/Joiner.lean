import SearchFilter.Proofs.Lexeme.Run
import SearchFilter.Proofs.Query.Negation

/-!
# Hyphens behind word characters

A hyphen between two word characters joins them in a word.  It joins nothing behind a date, which is
taken before any word, and nothing to a text in quotes: there the lexeme ends, and the hyphen starts
the next one.

* `Lexeme.EndsBefore.isDated`: only a dated lexeme can end before a hyphen that would join a word.
* `Course.exists_mem_start_eq_stop` and `Course.stop_eq_of_start_eq`: lexemes that touch.
* `StartsWithQuoted` and `Lexeme.exists_isNegated_iff`: what a hyphen at the start of a lexeme negates.
* `joining_hyphen_negates_iff`: when a hyphen behind a word character negates what follows it.
* `hyphens_that_do_not_join`: two hyphens that do.
-/

set_option autoImplicit false

namespace SearchFilter

open Unicode

/-! ## What ends before a joiner -/

theorem continuesWord_hyphen_cons {rest : List Char} (h : startsWithWordChar rest = true) :
    continuesWord ('-' :: rest) = true := by
  have hjoiner : isJoiner '-' = true := by decide
  rw [continuesWord, hjoiner, h, Bool.and_self, Bool.or_true]

theorem Term.EndsBefore.getLast?_isWordChar {t : Term} {rest : List Char} (h : t.EndsBefore rest)
    (hrest : continuesWord rest = true) : t.chars.getLast?.any isWordChar = false := by
  cases t with
  | word w => exact absurd (hrest.symm.trans h) Bool.noConfusion
  | quoted content => exact isWordChar_getLast?_quoted content

/-- **Where a word could go on, only a dated lexeme ends with a word character.** -/
theorem Lexeme.EndsBefore.isDated {l : Lexeme} {rest : List Char} (hwf : l.IsWellFormed)
    (h : l.EndsBefore rest) (hlast : l.chars.getLast?.any isWordChar = true)
    (hrest : continuesWord rest = true) : l.category.isDated = true := by
  cases l with
  | orPair left gap gap' right =>
    rw [getLast?_chars_orPair hwf.2.1, Term.EndsBefore.getLast?_isWordChar h hrest] at hlast
    exact absurd hlast Bool.false_ne_true
  | word negated w => exact absurd (hrest.symm.trans h) Bool.noConfusion
  | phrase negated content =>
    rw [getLast?_chars_phrase, isWordChar_getLast?_quoted] at hlast
    exact absurd hlast Bool.false_ne_true
  | _ => rfl

/-! ## Lexemes that touch -/

namespace Course

variable {cs : List Char} {os : List Occurrence} {o o' : Occurrence}

/-- Where a lexeme ends and another could be taken, one starts. -/
theorem exists_mem_start_eq_stop (h : Course cs 0 os) (ho : o ∈ os)
    (htake : (Position.ofIndex cs o.stop).take? ≠ none) : ∃ o' ∈ os, o'.start = o.stop := by
  obtain ⟨o', ho', hstart, hstop⟩ := h.exists_mem_of_take?_ne_none (Nat.zero_le _) htake
  refine ⟨o', ho', ?_⟩
  have hne : o ≠ o' := by
    rintro rfl
    exact Nat.lt_irrefl _ hstop
  have hcut := h.disjoint ho ho' hne
  have hlt := h.start_lt_stop ho
  omega

/-- The lexeme at the character before another one ends where that starts. -/
theorem stop_eq_of_start_eq (h : Course cs 0 os) (ho : o ∈ os) (ho' : o' ∈ os) {i : Nat}
    (hi : o.start ≤ i ∧ i < o.stop) (hstart : o'.start = i + 1) : o.stop = i + 1 := by
  have hne : o ≠ o' := by
    rintro rfl
    omega
  have hcut := h.disjoint ho ho' hne
  have hlt := h.start_lt_stop ho'
  omega

end Course

/-! ## What a hyphen negates -/

/-- Whether a text starts with a text in quotes: with a quote that another one closes. -/
def StartsWithQuoted (cs : List Char) : Prop :=
  cs.head? = some '"' ∧ '"' ∈ cs.tail

theorem startsWithQuoted_iff {cs : List Char} :
    StartsWithQuoted cs ↔ ∃ content rest, '"' ∉ content ∧ cs = (Term.quoted content).chars ++ rest := by
  constructor
  · rintro ⟨hhead, hmem⟩
    obtain ⟨content, rest, htail, hcontent⟩ := List.eq_append_cons_of_mem hmem
    refine ⟨content, rest, hcontent, ?_⟩
    rw [List.eq_cons_of_mem_head? hhead, htail, Term.chars, List.cons_append, List.append_assoc,
      List.singleton_append]
  · rintro ⟨content, rest, -, rfl⟩
    exact ⟨rfl, by simp [Term.chars]⟩

/-- **What a hyphen at the start of a lexeme negates**: a word or a text in quotes. -/
theorem Lexeme.exists_isNegated_iff {cs : List Char} :
    (∃ (l : Lexeme) (rest : List Char), l.IsWellFormed ∧ l.EndsBefore rest ∧ l.isNegated = true ∧
        '-' :: cs = l.chars ++ rest) ↔
      startsWithWordChar cs = true ∨ StartsWithQuoted cs := by
  constructor
  · rintro ⟨l, rest, hwf, -, hnegated, hcs⟩
    cases l with
    | word negated w =>
      obtain rfl : negated = true := hnegated
      obtain rfl : cs = w ++ rest := (List.cons.inj hcs).2
      exact .inl (IsWord.startsWithWordChar_append hwf rest)
    | phrase negated content =>
      obtain rfl : negated = true := hnegated
      exact .inr (startsWithQuoted_iff.2 ⟨content, rest, hwf, (List.cons.inj hcs).2⟩)
    | _ => exact absurd hnegated Bool.false_ne_true
  · rintro (hword | hquoted)
    · refine ⟨.word true (wordRest cs).1, (wordRest cs).2, isWord_wordRest hword,
        continuesWord_wordRest cs, rfl, ?_⟩
      exact congrArg _ (wordRest_append cs).symm
    · obtain ⟨content, rest, hcontent, rfl⟩ := startsWithQuoted_iff.1 hquoted
      exact ⟨.phrase true content, rest, hcontent, trivial, rfl, rfl⟩

theorem Lexeme.negate_mem_tokens_iff {l : Lexeme} :
    Token.negate ∈ l.tokens ↔ l.isNegated = true := by
  rw [tokens]
  cases l.isNegated <;> cases clean l.chars <;> simp

/-- **A hyphen behind a lexeme starts the next one** when a word or a text in quotes follows it. -/
theorem Course.exists_negate_iff {cs : List Char} {os : List Occurrence} (h : Course cs 0 os)
    {o : Occurrence} (ho : o ∈ os) (hhyphen : cs[o.stop]? = some '-') :
    (∃ o' ∈ os, o'.start = o.stop ∧ Token.negate ∈ o'.lexeme.tokens) ↔
      startsWithWordChar (cs.drop (o.stop + 1)) = true ∨
        StartsWithQuoted (cs.drop (o.stop + 1)) := by
  obtain ⟨hlt, hget⟩ := List.getElem?_eq_some_iff.1 hhyphen
  have hdrop : cs.drop o.stop = '-' :: cs.drop (o.stop + 1) := by
    rw [List.drop_eq_getElem_cons hlt, hget]
  rw [← Lexeme.exists_isNegated_iff]
  constructor
  · rintro ⟨o', ho', hstart, hnegate⟩
    obtain ⟨-, hwf, hend, hcs⟩ := Lexeme.of_take?_eq_some (h.take?_of_mem ho')
    refine ⟨o'.lexeme, _, hwf, hend, Lexeme.negate_mem_tokens_iff.1 hnegate, ?_⟩
    rw [← hcs, hstart, Position.ofIndex, hdrop]
  · rintro ⟨l, rest, hwf, hend, hnegated, hcs⟩
    have hprev : l.MayFollow (Position.ofIndex cs o.stop).prev := by
      cases l with
      | word negated w => trivial
      | phrase negated content => trivial
      | _ => exact absurd hnegated Bool.false_ne_true
    have htake : (Position.ofIndex cs o.stop).take? ≠ none := by
      have hrest : (Position.ofIndex cs o.stop).rest = l.chars ++ rest := hdrop.trans hcs
      rw [Position.take?, hrest]
      exact Lexeme.take?_chars_append_ne_none hprev hwf hend
    obtain ⟨o', ho', hstart⟩ := h.exists_mem_start_eq_stop ho htake
    -- it need not be the lexeme that could be taken, but it starts with the same hyphen
    refine ⟨o', ho', hstart, Lexeme.negate_mem_tokens_iff.2 ?_⟩
    obtain ⟨c, ds, hds⟩ := List.exists_cons_of_ne_nil (Lexeme.chars_ne_nil (h.isWellFormed ho'))
    have hfirst := h.drop_start ho'
    rw [hstart, hdrop, hds, List.cons_append] at hfirst
    rw [← Lexeme.startsWithHyphen_chars (h.isWellFormed ho'), hds, ← (List.cons.inj hfirst).1]
    rfl

/-! ## Hyphens behind word characters -/

/-- **When a hyphen behind a word character negates.**  The word character stands in a lexeme.  A
mark of negation comes from one that starts at the hyphen only if the first one ends there, and then
if and only if a text in quotes follows the hyphen, or the lexeme names dates and a word character
follows the hyphen. -/
theorem joining_hyphen_negates_iff {cs : List Char} {i : Nat}
    (hword : cs[i]?.any isWordChar = true) (hhyphen : cs[i + 1]? = some '-') :
    ∃ o ∈ scan cs, o.start ≤ i ∧ i < o.stop ∧
      ((∃ o' ∈ scan cs, o'.start = i + 1 ∧ Token.negate ∈ o'.lexeme.tokens) ↔
        o.stop = i + 1 ∧
          (StartsWithQuoted (cs.drop (i + 2)) ∨
            o.lexeme.category.isDated = true ∧ cs[i + 2]?.any isWordChar = true)) := by
  have hcourse := course_scan cs
  obtain ⟨o, ho, hstart, hlt⟩ := hcourse.exists_mem_of_isWordChar hword
  refine ⟨o, ho, hstart, hlt, ?_⟩
  by_cases hstop : o.stop = i + 1
  · rw [← hstop] at hhyphen
    have hnegate := hcourse.exists_negate_iff ho hhyphen
    rw [hstop] at hnegate hhyphen
    rw [hnegate, startsWithWordChar_drop, and_iff_right hstop, or_comm]
    -- a word would have gone on over the hyphen, and only a date has not
    refine or_congr_right (iff_and_self.2 fun hnext ↦ ?_)
    obtain ⟨-, hwf, hend, -⟩ := Lexeme.of_take?_eq_some (hcourse.take?_of_mem ho)
    obtain ⟨hlength, hget⟩ := List.getElem?_eq_some_iff.1 hhyphen
    refine Lexeme.EndsBefore.isDated hwf hend ?_ ?_
    · have hi : i < cs.length := Nat.lt_of_succ_lt hlength
      rw [← hcourse.prev_stop ho, hstop, Position.ofIndex_succ hi, Option.any_some]
      rwa [List.getElem?_eq_getElem hi, Option.any_some] at hword
    · rw [hstop, List.drop_eq_getElem_cons hlength, hget]
      exact continuesWord_hyphen_cons ((startsWithWordChar_drop cs (i + 2)).trans hnext)
  · refine iff_of_false ?_ fun h ↦ hstop h.1
    rintro ⟨o', ho', hstart', -⟩
    exact hstop (hcourse.stop_eq_of_start_eq ho ho' ⟨hstart, hlt⟩ hstart')

/-- The hyphen behind eight digits negates a word, though a word of nine characters would go on
over it. -/
theorem joining_hyphen_negates_behind_date :
    ∃ o' ∈ scan "20090115-report".toList, o'.start = 8 ∧ Token.negate ∈ o'.lexeme.tokens := by
  have hword : "20090115-report".toList[7]?.any isWordChar = true := by decide +kernel
  have hhyphen : "20090115-report".toList[7 + 1]? = some '-' := by decide
  obtain ⟨o, ho, hstart, hstop, hnegates⟩ := joining_hyphen_negates_iff hword hhyphen
  refine hnegates.2 ?_
  have hfirst : ∀ o ∈ scan "20090115-report".toList, o.start ≤ 7 → 7 < o.stop →
      o.stop = 8 ∧ o.lexeme.category.isDated = true := by
    decide +kernel
  obtain ⟨height, hdated⟩ := hfirst o ho hstart hstop
  exact ⟨height, .inr ⟨hdated, by decide +kernel⟩⟩

/-- Behind a word character stands a hyphen that negates, here a word behind a date and there a text
in quotes behind a word. -/
theorem hyphens_that_do_not_join :
    ("20090115-report".toList[7]?.any isWordChar = true ∧
      "20090115-report".toList[8]? = some '-' ∧
      tokenize "20090115-report".toList = [.literal "20090115", .negate, .literal "report"] ∧
      ∃ o ∈ scan "20090115-report".toList, o.start = 8 ∧ Token.negate ∈ o.lexeme.tokens) ∧
    ("e-\"mail\"".toList[0]?.any isWordChar = true ∧ "e-\"mail\"".toList[1]? = some '-' ∧
      tokenize "e-\"mail\"".toList = [.literal "e", .negate, .literal "mail"] ∧
      ∃ o ∈ scan "e-\"mail\"".toList, o.start = 1 ∧ Token.negate ∈ o.lexeme.tokens) := by
  decide +kernel

end SearchFilter
