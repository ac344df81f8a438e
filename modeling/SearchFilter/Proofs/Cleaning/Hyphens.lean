import SearchFilter.Proofs.Cleaning

/-!
# Hyphens that cleaning leaves

Cleaning takes one hyphen off the start of a text and one from behind a space, and judges them in the
text as it was before.  So the second of two hyphens is left, and it stands where the first one stood.

* `clean_eq_self_iff`: the texts that cleaning leaves alone.
* `hyphen_prefix_clean_iff` and `hyphen_infix_clean_iff`: when a hyphen is left at the start of a text,
  and when behind a space.
* `clean_leaves_second_hyphens`: what cleaning leaves of a text, and when cleaning again changes
  nothing.
* `clean_two_hyphens`: a text that has to be cleaned twice.
-/

set_option autoImplicit false

namespace SearchFilter

variable {cs : List Char} {atWord inRun : Bool}

/-! ## Texts that are left alone -/

theorem dropDashes_eq_self_iff :
    dropDashes atWord cs = cs ↔ (atWord = true → ¬['-'] <+: cs) ∧ ¬[' ', '-'] <:+: cs := by
  induction cs generalizing atWord with
  | nil => simp [dropDashes]
  | cons c cs ih =>
    rw [dropDashes]
    split
    next h =>
      rw [Bool.and_eq_true, beq_iff_eq] at h
      refine iff_of_false (fun heq ↦ ?_) fun hnone ↦ ?_
      · -- a text is not as long as its rest
        have hlength := (dropDashes_sublist false cs).length_le
        rw [heq, List.length_cons] at hlength
        omega
      · exact hnone.1 h.1 (List.cons_prefix_cons.2 ⟨h.2.symm, List.nil_prefix⟩)
    next h =>
      have hhead : atWord = true → ¬['-'] <+: c :: cs := by
        intro hword hprefix
        obtain rfl := (List.cons_prefix_cons.1 hprefix).1
        exact h (by simp [hword])
      rw [List.cons.injEq, eq_self_iff_true, true_and, ih, and_iff_right hhead,
        List.infix_cons_iff, List.cons_prefix_cons, not_or, not_and, beq_iff_eq, eq_comm (a := c)]

theorem collapseSpaces_eq_self (hrun : inRun = true → ¬[' '] <+: cs) (h : ¬[' ', ' '] <:+: cs) :
    collapseSpaces inRun cs = cs := by
  induction cs generalizing inRun with
  | nil => rfl
  | cons c cs ih =>
    rw [List.infix_cons_iff, not_or, List.cons_prefix_cons, not_and] at h
    rw [collapseSpaces, if_neg]
    · rw [ih (fun hc ↦ h.1 (beq_iff_eq.1 hc).symm) h.2]
    · rw [Bool.and_eq_true, beq_iff_eq]
      rintro ⟨hin, rfl⟩
      exact hrun hin (List.cons_prefix_cons.2 ⟨rfl, List.nil_prefix⟩)

/-- **What cleaning leaves alone**: texts without quotes or two spaces in a row, in which no hyphen
stands at the start or behind a space. -/
theorem clean_eq_self_iff :
    clean cs = cs ↔
      '"' ∉ cs ∧ ¬[' ', ' '] <:+: cs ∧ ¬['-'] <+: cs ∧ ¬[' ', '-'] <:+: cs := by
  constructor
  · intro h
    have hquote : '"' ∉ cs := h ▸ quote_not_mem_clean cs
    have hfilter : cs.filter (· != '"') = cs :=
      List.filter_eq_self.2 fun c hc ↦ bne_iff_ne.2 fun heq ↦ hquote (heq ▸ hc)
    -- the text goes through all steps, and each of them only takes away
    have hdashes : dropDashes true cs = cs := by
      refine (dropDashes_sublist true cs).eq_of_length_le ?_
      have hlength := (collapseSpaces_sublist false (dropDashes true cs)).length_le
      rw [clean, hfilter] at h
      rwa [h] at hlength
    obtain ⟨hstart, hbehind⟩ := dropDashes_eq_self_iff.1 hdashes
    exact ⟨hquote, h ▸ not_infix_clean cs, hstart rfl, hbehind⟩
  · rintro ⟨hquote, hspaces, hstart, hbehind⟩
    have hfilter : cs.filter (· != '"') = cs :=
      List.filter_eq_self.2 fun c hc ↦ bne_iff_ne.2 fun heq ↦ hquote (heq ▸ hc)
    rw [clean, hfilter, dropDashes_eq_self_iff.2 ⟨fun _ ↦ hstart, hbehind⟩,
      collapseSpaces_eq_self (by simp) hspaces]

/-! ## Hyphens at the start and behind spaces -/

theorem hyphen_prefix_dropDashes_false_iff : ['-'] <+: dropDashes false cs ↔ ['-'] <+: cs := by
  cases cs with
  | nil => rfl
  | cons c cs => simp [dropDashes, List.cons_prefix_cons]

theorem hyphen_prefix_dropDashes_true_iff : ['-'] <+: dropDashes true cs ↔ ['-', '-'] <+: cs := by
  cases cs with
  | nil => simp [dropDashes]
  | cons c cs =>
    rw [dropDashes, List.cons_prefix_cons]
    split
    next h =>
      rw [Bool.and_eq_true, beq_iff_eq] at h
      rw [hyphen_prefix_dropDashes_false_iff, h.2, and_iff_right rfl]
    next h =>
      have hc : c ≠ '-' := by simpa using h
      simp [List.cons_prefix_cons, Ne.symm hc]

/-- A hyphen is left behind a space when two hyphens stand there. -/
theorem hyphen_infix_dropDashes_iff :
    [' ', '-'] <:+: dropDashes atWord cs ↔ [' ', '-', '-'] <:+: cs := by
  induction cs generalizing atWord with
  | nil => simp [dropDashes]
  | cons c cs ih =>
    rw [dropDashes, List.infix_cons_iff, List.cons_prefix_cons]
    split
    next h =>
      rw [Bool.and_eq_true, beq_iff_eq] at h
      simp [ih, h.2]
    next h =>
      rw [List.infix_cons_iff, List.cons_prefix_cons, ih]
      refine or_congr_left (and_congr_right fun hc ↦ ?_)
      rw [← hc, beq_self_eq_true, hyphen_prefix_dropDashes_true_iff]

theorem hyphen_prefix_collapseSpaces_iff : ['-'] <+: collapseSpaces false cs ↔ ['-'] <+: cs := by
  cases cs with
  | nil => rfl
  | cons c cs => simp [collapseSpaces, List.cons_prefix_cons]

/-- What stands behind the space of a run stands behind the run.  While the run goes on its space is
the one before the rest. -/
theorem hyphen_infix_collapseSpaces_iff :
    ([' ', '-'] <:+: collapseSpaces false cs ↔ [' ', '-'] <:+: cs) ∧
      ([' ', '-'] <:+: ' ' :: collapseSpaces true cs ↔ [' ', '-'] <:+: ' ' :: cs) := by
  induction cs with
  | nil => exact ⟨Iff.rfl, Iff.rfl⟩
  | cons c cs ih =>
    by_cases hc : c = ' '
    · subst hc
      refine ⟨ih.2, ?_⟩
      have hcollapse : collapseSpaces true (' ' :: cs) = collapseSpaces true cs := rfl
      have htwo : [' ', '-'] <:+: ' ' :: ' ' :: cs ↔
          [' ', '-'] <+: ' ' :: ' ' :: cs ∨ [' ', '-'] <:+: ' ' :: cs := List.infix_cons_iff
      rw [hcollapse, ih.2, htwo]
      simp
    · have hstep : ∀ run, collapseSpaces run (c :: cs) = c :: collapseSpaces false cs := by
        intro run
        rw [collapseSpaces, if_neg (by simp [hc]), beq_false_of_ne hc]
      simp [hstep, List.infix_cons_iff, List.cons_prefix_cons, Ne.symm hc, ih.1]

theorem hyphen_prefix_clean_iff :
    ['-'] <+: clean cs ↔ ['-', '-'] <+: cs.filter (· != '"') := by
  rw [clean, hyphen_prefix_collapseSpaces_iff, hyphen_prefix_dropDashes_true_iff]

theorem hyphen_infix_clean_iff :
    [' ', '-'] <:+: clean cs ↔ [' ', '-', '-'] <:+: cs.filter (· != '"') := by
  rw [clean, hyphen_infix_collapseSpaces_iff.1, hyphen_infix_dropDashes_iff]

/-! ## What cleaning leaves -/

/-- **Cleaning takes all quotes away, all spaces but one of each run, and one hyphen from each place
where it would negate.**  A hyphen is left at the start where two stood when the quotes were gone, and
likewise behind a space; if there are no such places, the cleaned text is clean. -/
theorem clean_leaves_second_hyphens (cs : List Char) :
    '"' ∉ clean cs ∧ ¬[' ', ' '] <:+: clean cs ∧
      (['-'] <+: clean cs ↔ ['-', '-'] <+: cs.filter (· != '"')) ∧
      ([' ', '-'] <:+: clean cs ↔ [' ', '-', '-'] <:+: cs.filter (· != '"')) ∧
      (clean (clean cs) = clean cs ↔
        ¬['-', '-'] <+: cs.filter (· != '"') ∧ ¬[' ', '-', '-'] <:+: cs.filter (· != '"')) := by
  refine ⟨quote_not_mem_clean cs, not_infix_clean cs, hyphen_prefix_clean_iff,
    hyphen_infix_clean_iff, ?_⟩
  rw [clean_eq_self_iff, ← hyphen_prefix_clean_iff, ← hyphen_infix_clean_iff]
  simp only [quote_not_mem_clean cs, not_infix_clean cs, not_false_eq_true, true_and]

/-- The second of two hyphens is left at the start, where cleaning again takes it away, and behind a
space. -/
theorem clean_two_hyphens :
    clean "--a".toList = "-a".toList ∧ ['-'] <+: clean "--a".toList ∧
      clean (clean "--a".toList) ≠ clean "--a".toList ∧ [' ', '-'] <:+: clean "a --b".toList := by
  decide

end SearchFilter
