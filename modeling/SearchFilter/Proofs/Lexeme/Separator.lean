import SearchFilter.Proofs.Lexeme.Run
import SearchFilter.Token

/-!
# Separators

Stray punctuation is in no lexeme, unless it stands in quotes.  Behind a text without quotes it
cuts the query in two, and the two parts are read as if each were alone.

* `isSeparator` tells the characters that are meant.
* `Lexeme.exists_of_append_eq`: a lexeme that starts before the cut ends before it.
* `Category.take?_append`: before the cut the same is taken as without what stands behind it.
* `Walk.append` puts the walks through the two parts together.
* `tokenize_append_separator`: the tokens of the query are those of its parts.
-/

set_option autoImplicit false

namespace SearchFilter

open Unicode

/-! ## What separates -/

/-- The marks that mean something in a query. -/
def queryMarks : List Char :=
  ['"', '-', '.', '\'', '@', '/', '<', '>', '=']

/-- Whether a character is stray punctuation: no blank, in no word, and no mark. -/
def isSeparator (c : Char) : Bool :=
  !isWordChar c && !isBlank c && !queryMarks.contains c

section

variable {c : Char}

theorem isSeparator_eq_false_of_isWordChar (h : isWordChar c = true) : isSeparator c = false := by
  simp [isSeparator, h]

theorem isSeparator_eq_false_of_isBlank (h : isBlank c = true) : isSeparator c = false := by
  simp [isSeparator, h]

theorem isSeparator_eq_false_of_mem (h : c ∈ queryMarks) : isSeparator c = false := by
  simp [isSeparator, h]

theorem isSeparator_eq_false_of_all {cs : List Char} (h : cs.all (!isSeparator ·) = true) :
    ∀ c ∈ cs, isSeparator c = false :=
  fun c hc ↦ by simpa using List.all_eq_true.1 h c hc

theorem isWordChar_of_isSeparator (h : isSeparator c = true) : isWordChar c = false :=
  Bool.eq_false_iff.2 fun hw ↦
    Bool.false_ne_true ((isSeparator_eq_false_of_isWordChar hw).symm.trans h)

theorem ne_of_isSeparator (h : isSeparator c = true) {d : Char} (hd : d ∈ queryMarks) : c ≠ d := by
  rintro rfl
  exact Bool.false_ne_true ((isSeparator_eq_false_of_mem hd).symm.trans h)

theorem isSeparator_eq_false_of_isJoiner (h : isJoiner c = true) : isSeparator c = false := by
  have hmem : c ∈ ['-', '.', '\'', '@'] := by simpa [isJoiner] using h
  refine isSeparator_eq_false_of_mem ?_
  simp only [List.mem_cons, List.not_mem_nil, or_false] at hmem
  rcases hmem with rfl | rfl | rfl | rfl <;> decide

/-- **No lexeme starts with a separator.** -/
theorem Category.isSeparator_eq_false_of_opensWith {category : Category}
    (h : category.opensWith c = true) : isSeparator c = false := by
  have hmark : ∀ d ∈ queryMarks, d = c → isSeparator c = false := fun d hd he ↦
    isSeparator_eq_false_of_mem (he ▸ hd)
  have hword : ∀ d ∈ queryMarks, (isWordChar c || c == d) = true → isSeparator c = false := by
    intro d hd hor
    rw [Bool.or_eq_true, beq_iff_eq] at hor
    exact hor.elim isSeparator_eq_false_of_isWordChar fun he ↦ hmark d hd he.symm
  cases category with
  | betweenDates => exact isSeparator_eq_false_of_isWordChar (isWordChar_of_isDigit h)
  | comparedDate comparison =>
    rw [opensWith, beq_iff_eq] at h
    cases comparison <;> exact hmark _ (by decide) (Option.some.inj h)
  | asOfDate => exact isSeparator_eq_false_of_isWordChar (isWordChar_of_isDigit h)
  | orPair => exact hword '"' (by decide) h
  | word => exact hword '-' (by decide) h
  | string =>
    rw [opensWith, Bool.or_eq_true, beq_iff_eq, beq_iff_eq] at h
    exact h.elim (fun he ↦ hmark '-' (by decide) he.symm) fun he ↦ hmark '"' (by decide) he.symm

theorem Category.opensWith_eq_false_of_isSeparator (h : isSeparator c = true)
    (category : Category) : category.opensWith c = false :=
  Bool.eq_false_iff.2 fun hopen ↦
    Bool.false_ne_true ((isSeparator_eq_false_of_opensWith hopen).symm.trans h)

theorem Category.opensWith_eq_false_of_isBlank (h : isBlank c = true) (category : Category) :
    category.opensWith c = false :=
  Bool.eq_false_iff.2 fun hopen ↦
    Bool.false_ne_true ((isBlank_eq_false_of_opensWith hopen).symm.trans h)

end

/-! ## Separators in a lexeme -/

/-- Whether the separators in a text stand behind a quote. -/
def SeparatorsQuoted (cs : List Char) : Prop :=
  ∀ c ∈ cs.takeWhile (· != '"'), isSeparator c = false

theorem separatorsQuoted_quote (cs : List Char) : SeparatorsQuoted ('"' :: cs) :=
  fun _ hc ↦ absurd hc List.not_mem_nil

theorem separatorsQuoted_of_forall {cs : List Char} (h : ∀ c ∈ cs, isSeparator c = false) :
    SeparatorsQuoted cs :=
  fun c hc ↦ h c (List.takeWhile_sublist _ |>.mem hc)

theorem SeparatorsQuoted.append {xs ys : List Char} (hxs : ∀ c ∈ xs, isSeparator c = false)
    (hys : SeparatorsQuoted ys) : SeparatorsQuoted (xs ++ ys) := by
  intro c hc
  rw [List.takeWhile_append] at hc
  split at hc
  · exact (List.mem_append.1 hc).elim (hxs c) (hys c)
  · exact hxs c (List.takeWhile_sublist _ |>.mem hc)

theorem SeparatorsQuoted.quote_mem {xs ys : List Char} {c : Char}
    (h : SeparatorsQuoted (xs ++ c :: ys)) (hc : isSeparator c = true) : '"' ∈ xs := by
  by_contra hmem
  have hxs : ∀ x ∈ xs, (x != '"') = true := fun x hx ↦ bne_iff_ne.2 fun he ↦ hmem (he ▸ hx)
  have hne : (c != '"') = true := bne_iff_ne.2 (ne_of_isSeparator hc (by decide))
  have hfalse := h c (by
    rw [List.takeWhile_append_of_pos hxs, List.takeWhile_cons_of_pos (p := (· != '"')) hne]
    exact List.mem_append_right xs List.mem_cons_self)
  exact Bool.false_ne_true (hfalse.symm.trans hc)

theorem IsWord.isSeparator_eq_false {w : List Char} (h : IsWord w) :
    ∀ c ∈ w, isSeparator c = false := fun _ hc ↦
  (h.mem hc).elim isSeparator_eq_false_of_isWordChar isSeparator_eq_false_of_isJoiner

theorem WrittenDate.isSeparator_eq_false {d : WrittenDate} (h : d.isWellFormed = true) :
    ∀ c ∈ d.chars, isSeparator c = false := by
  intro c hc
  rcases d.mem_chars h hc with hdigit | rfl | rfl
  · exact isSeparator_eq_false_of_isWordChar (isWordChar_of_isDigit hdigit)
  · exact isSeparator_eq_false_of_mem (by decide)
  · exact isSeparator_eq_false_of_mem (by decide)

theorem isSeparator_eq_false_of_mem_gap {gap : List Char} (h : ∀ c ∈ gap, isBlank c = true) :
    ∀ c ∈ gap, isSeparator c = false :=
  fun c hc ↦ isSeparator_eq_false_of_isBlank (h c hc)

theorem Term.separatorsQuoted {t : Term} (h : t.IsWellFormed) : SeparatorsQuoted t.chars := by
  cases t with
  | word w => exact separatorsQuoted_of_forall (IsWord.isSeparator_eq_false h)
  | quoted content => exact separatorsQuoted_quote _

/-- **The separators in a lexeme stand behind a quote.** -/
theorem Lexeme.separatorsQuoted {l : Lexeme} (h : l.IsWellFormed) : SeparatorsQuoted l.chars := by
  have hto : ∀ c ∈ ['T', 'O'], isSeparator c = false :=
    isSeparator_eq_false_of_all (by decide +kernel)
  have hor : ∀ c ∈ ['O', 'R'], isSeparator c = false :=
    isSeparator_eq_false_of_all (by decide +kernel)
  have hdash : ∀ negated, ∀ c ∈ dash negated, isSeparator c = false := by
    intro negated
    cases negated <;> exact isSeparator_eq_false_of_all (by decide +kernel)
  cases l with
  | dateRange first gap gap' last =>
    obtain ⟨hfirst, hlast, -, hgap, hgap'⟩ := h
    rw [chars]
    refine separatorsQuoted_of_forall ?_
    simp only [List.forall_mem_append]
    exact ⟨⟨⟨⟨first.isSeparator_eq_false hfirst, isSeparator_eq_false_of_mem_gap hgap.2⟩, hto⟩,
      isSeparator_eq_false_of_mem_gap hgap'.2⟩, last.isSeparator_eq_false hlast⟩
  | comparedDate comparison gap d =>
    have hsign : ∀ c ∈ comparison.sign, isSeparator c = false := by
      cases comparison <;> exact isSeparator_eq_false_of_all (by decide +kernel)
    refine separatorsQuoted_of_forall ?_
    simp only [chars, List.forall_mem_append]
    exact ⟨⟨hsign, isSeparator_eq_false_of_mem_gap h.1⟩, d.isSeparator_eq_false h.2⟩
  | date d => exact separatorsQuoted_of_forall (d.isSeparator_eq_false h)
  | orPair left gap gap' right =>
    obtain ⟨hleft, hright, hgap, hgap'⟩ := h
    have hrest : SeparatorsQuoted (gap ++ ['O', 'R'] ++ gap' ++ right.chars) := by
      refine .append ?_ (right.separatorsQuoted hright)
      simp only [List.forall_mem_append]
      exact ⟨⟨isSeparator_eq_false_of_mem_gap hgap.2, hor⟩,
        isSeparator_eq_false_of_mem_gap hgap'.2⟩
    cases left with
    | word w => simpa [chars, Term.chars] using hrest.append (IsWord.isSeparator_eq_false hleft)
    | quoted content => exact separatorsQuoted_quote _
  | word negated w =>
    exact (separatorsQuoted_of_forall (IsWord.isSeparator_eq_false h)).append (hdash negated)
  | phrase negated content => exact (separatorsQuoted_quote _).append (hdash negated)

/-! ## The last character of a lexeme -/

theorem IsWord.isWordChar_getLast? {w : List Char} (h : IsWord w) :
    w.getLast?.any isWordChar = true := by
  induction h with
  | single hc => exact hc
  | cons _ hw ih =>
    rw [← List.singleton_append, List.getLast?_append_of_ne_nil _ hw.ne_nil]
    exact ih
  | @join c j w _ _ hw ih =>
    have happ : c :: j :: w = [c, j] ++ w := rfl
    rw [happ, List.getLast?_append_of_ne_nil _ hw.ne_nil]
    exact ih

theorem WrittenDate.third_ne_nil {d : WrittenDate} (h : d.isWellFormed = true) : d.third ≠ [] := by
  obtain ⟨-, -, -, hwidths⟩ := isWellFormed_iff.1 h
  intro hnil
  rw [hnil] at hwidths
  cases hform : d.form <;>
    simp [hform, DateForm.hasWidths, DateForm.hasWidths.isShort] at hwidths

theorem WrittenDate.isDigit_getLast? {d : WrittenDate} (h : d.isWellFormed = true) :
    d.chars.getLast?.any isDigit = true := by
  obtain ⟨-, -, hthird, -⟩ := isWellFormed_iff.1 h
  have hne := d.third_ne_nil h
  rw [chars, List.getLast?_append_of_ne_nil _ hne, List.getLast?_eq_some_getLast hne]
  exact hthird _ (List.getLast_mem hne)

theorem any_isBlank_eq_false {o : Option Char} {p : Char → Bool} (h : o.any p = true)
    (hp : ∀ c, p c = true → isBlank c = false) : o.any isBlank = false := by
  cases o with
  | none => rfl
  | some c => exact hp c h

theorem Term.isBlank_getLast? {t : Term} (h : t.IsWellFormed) :
    t.chars.getLast?.any isBlank = false := by
  cases t with
  | word w =>
    exact any_isBlank_eq_false (IsWord.isWordChar_getLast? h) fun _ ↦ isBlank_eq_false_of_isWordChar
  | quoted content =>
    rw [chars, ← List.cons_append, List.getLast?_concat]
    rfl

/-- **No lexeme ends with a blank.** -/
theorem Lexeme.isBlank_getLast? {l : Lexeme} (h : l.IsWellFormed) :
    l.chars.getLast?.any isBlank = false := by
  have hdate : ∀ {d : WrittenDate}, d.isWellFormed = true → ∀ cs : List Char,
      (cs ++ d.chars).getLast?.any isBlank = false := by
    intro d hd cs
    obtain ⟨c, ds, hds, -⟩ := d.exists_cons hd
    rw [List.getLast?_append_of_ne_nil _ (by simp [hds])]
    exact any_isBlank_eq_false (d.isDigit_getLast? hd) fun _ ↦ isBlank_eq_false_of_isDigit
  have hterm : ∀ {t : Term}, t.IsWellFormed → ∀ cs : List Char,
      (cs ++ t.chars).getLast?.any isBlank = false := by
    intro t ht cs
    obtain ⟨c, ds, hds, -⟩ := t.exists_cons ht
    rw [List.getLast?_append_of_ne_nil _ (by simp [hds])]
    exact t.isBlank_getLast? ht
  cases l with
  | dateRange first gap gap' last => exact hdate h.2.1 _
  | comparedDate comparison gap d => exact hdate h.2 _
  | date d => exact hdate h []
  | orPair left gap gap' right => exact hterm h.2.1 _
  | word negated w => exact hterm (t := .word w) h _
  | phrase negated content =>
    rw [chars, Term.chars, ← List.cons_append, ← List.append_assoc, List.getLast?_concat]
    rfl

/-! ## Taking a lexeme before a cut -/

/-- A text that makes nothing before it longer. -/
structure IsBarrier (cs : List Char) : Prop where
  startsWithWordChar : startsWithWordChar cs = false
  continuesWord : continuesWord cs = false

variable {barrier rest : List Char}

theorem IsBarrier.startsWithWordChar_append (h : IsBarrier barrier) (cs : List Char) :
    SearchFilter.startsWithWordChar (cs ++ barrier) = SearchFilter.startsWithWordChar cs := by
  cases cs with
  | nil => exact h.startsWithWordChar
  | cons c cs => rfl

theorem IsBarrier.continuesWord_append (h : IsBarrier barrier) (cs : List Char) :
    SearchFilter.continuesWord (cs ++ barrier) = SearchFilter.continuesWord cs := by
  cases cs with
  | nil => exact h.continuesWord
  | cons c cs =>
    rw [List.cons_append, SearchFilter.continuesWord, SearchFilter.continuesWord,
      h.startsWithWordChar_append]

theorem Lexeme.endsBefore_append_iff (h : IsBarrier barrier) {l : Lexeme} {cs : List Char} :
    l.EndsBefore (cs ++ barrier) ↔ l.EndsBefore cs := by
  cases l with
  | orPair left gap gap' right =>
    cases right with
    | word w => rw [EndsBefore, EndsBefore, Term.EndsBefore, Term.EndsBefore, h.continuesWord_append]
    | quoted content => exact Iff.rfl
  | word negated w => rw [EndsBefore, EndsBefore, h.continuesWord_append]
  | phrase negated content => exact Iff.rfl
  | _ => rw [EndsBefore, EndsBefore, h.startsWithWordChar_append]

section

variable {blanks : List Char} {c : Char}

theorem isBarrier_blanks_separator (hblanks : ∀ b ∈ blanks, isBlank b = true)
    (hc : isSeparator c = true) : IsBarrier (blanks ++ c :: rest) := by
  cases blanks with
  | nil =>
    have hword := isWordChar_of_isSeparator hc
    have hjoiner : isJoiner c = false := Bool.eq_false_iff.2 fun hj ↦
      Bool.false_ne_true ((isSeparator_eq_false_of_isJoiner hj).symm.trans hc)
    exact ⟨hword, by simp [continuesWord, hword, hjoiner]⟩
  | cons b blanks =>
    have hb := hblanks b List.mem_cons_self
    exact ⟨isWordChar_eq_false_of_isBlank hb, continuesWord_of_startsWithBlank hb⟩

theorem Lexeme.eq_nil_of_chars_eq_append {l : Lexeme} (hwf : l.IsWellFormed) {cs blanks : List Char}
    (h : l.chars = cs ++ blanks) (hblanks : ∀ b ∈ blanks, isBlank b = true) : blanks = [] := by
  by_contra hne
  have hlast := l.isBlank_getLast? hwf
  rw [h, List.getLast?_append_of_ne_nil _ hne, List.getLast?_eq_some_getLast hne, Option.any_some,
    hblanks _ (List.getLast_mem hne)] at hlast
  exact Bool.false_ne_true hlast.symm

/-- **A lexeme that starts before the cut ends before it.** -/
theorem Lexeme.exists_of_append_eq {l : Lexeme} (hwf : l.IsWellFormed) {cs rest' : List Char}
    (hcs : '"' ∉ cs) (hblanks : ∀ b ∈ blanks, isBlank b = true) (hc : isSeparator c = true)
    (h : cs ++ (blanks ++ c :: rest) = l.chars ++ rest') :
    ∃ cs', cs = l.chars ++ cs' ∧ rest' = cs' ++ (blanks ++ c :: rest) := by
  rcases List.append_eq_append_iff.1 h with ⟨t, hchars, ht⟩ | hbefore
  · -- what the lexeme has behind `cs` are blanks, or it goes on to the separator
    obtain rfl : t = [] := by
      rcases List.append_eq_append_iff.1 ht with ⟨t', rfl, ht'⟩ | ⟨t', rfl, -⟩
      · cases t' with
        | nil => exact eq_nil_of_chars_eq_append hwf hchars (by simpa using hblanks)
        | cons d t' =>
          obtain rfl : c = d := (List.cons.inj ht').1
          rw [← List.append_assoc] at hchars
          have hquote := (hchars ▸ separatorsQuoted hwf).quote_mem hc
          exact absurd ((List.mem_append.1 hquote).resolve_left hcs) fun hq ↦
            absurd (hblanks _ hq) (by decide)
      · exact eq_nil_of_chars_eq_append hwf hchars fun b hb ↦
          hblanks b (List.mem_append_left t' hb)
    exact ⟨[], by rw [List.append_nil, hchars, List.append_nil], ht.symm⟩
  · exact hbefore

/-- **Before the cut the same is taken as without what stands behind it.** -/
theorem Category.take?_append {cs : List Char} (hcs : '"' ∉ cs)
    (hblanks : ∀ b ∈ blanks, isBlank b = true) (hc : isSeparator c = true) (category : Category)
    (prev : Option Char) :
    category.take? prev (cs ++ (blanks ++ c :: rest)) =
      (category.take? prev cs).map fun (l, cs') ↦ (l, cs' ++ (blanks ++ c :: rest)) := by
  have hbarrier : IsBarrier (blanks ++ c :: rest) := isBarrier_blanks_separator hblanks hc
  refine Option.ext fun ⟨l, rest'⟩ ↦ ?_
  simp only [Option.map_eq_some_iff, Prod.exists, take?_eq_some_iff, Prod.mk.injEq]
  constructor
  · rintro ⟨hl, hprev, hwf, hend, happ⟩
    obtain ⟨cs', rfl, rfl⟩ := l.exists_of_append_eq hwf hcs hblanks hc happ
    exact ⟨l, cs', ⟨hl, hprev, hwf, (Lexeme.endsBefore_append_iff hbarrier).1 hend, rfl⟩, rfl, rfl⟩
  · rintro ⟨_, cs', ⟨hl, hprev, hwf, hend, rfl⟩, rfl, rfl⟩
    exact ⟨hl, hprev, hwf, (Lexeme.endsBefore_append_iff hbarrier).2 hend, List.append_assoc ..⟩

theorem Lexeme.take?_append {cs : List Char} (hcs : '"' ∉ cs)
    (hblanks : ∀ b ∈ blanks, isBlank b = true) (hc : isSeparator c = true) (prev : Option Char) :
    take? prev (cs ++ (blanks ++ c :: rest)) =
      (take? prev cs).map fun (l, cs') ↦ (l, cs' ++ (blanks ++ c :: rest)) := by
  rw [take?, take?, List.map_findSome?]
  exact congrArg (List.findSome? · Category.all)
    (funext fun category ↦ Category.take?_append hcs hblanks hc category prev)

end

/-! ## The walk through the two parts -/

theorem Category.take?_congr {prev prev' : Option Char}
    (h : dateMayFollow prev = dateMayFollow prev') (category : Category) (cs : List Char) :
    category.take? prev cs = category.take? prev' cs := by
  cases category <;> simp only [take?, h]

theorem Lexeme.take?_congr {prev prev' : Option Char}
    (h : dateMayFollow prev = dateMayFollow prev') (cs : List Char) :
    take? prev cs = take? prev' cs := by
  simp only [take?, Category.take?_congr h]

/-- Of what stands before a text, its lexemes depend only on whether a date may follow. -/
theorem Walk.exists_of_dateMayFollow {prev prev' : Option Char} {start : Nat} {cs : List Char}
    {os : List Occurrence} (h : Walk prev start cs os)
    (hprev : dateMayFollow prev = dateMayFollow prev') (start' : Nat) :
    ∃ os', Walk prev' start' cs os' ∧ os'.map (·.lexeme) = os.map (·.lexeme) := by
  induction h generalizing prev' start' with
  | done => exact ⟨[], .done, rfl⟩
  | pass htake _ ih =>
    obtain ⟨os', hwalk, hos⟩ := ih rfl (start' + 1)
    exact ⟨os', .pass (Lexeme.take?_congr hprev _ ▸ htake) hwalk, hos⟩
  | @take prev start l rest os htake _ ih =>
    obtain ⟨os', hwalk, hos⟩ := ih rfl (start' + l.chars.length)
    exact ⟨⟨start', l⟩ :: os', .take (Lexeme.take?_congr hprev _ ▸ htake) hwalk,
      by rw [List.map_cons, List.map_cons, hos]⟩

/-- **Behind characters that start nothing a text is read as if it were alone.** -/
theorem exists_walk_skip {xs : List Char}
    (hxs : ∀ x ∈ xs, ∀ category : Category, category.opensWith x = false)
    {prev : Option Char} (hprev : dateMayFollow prev = true ∨ xs ≠ []) (start : Nat)
    (cs : List Char) :
    ∃ os, Walk prev start (xs ++ cs) os ∧ os.map (·.lexeme) = (scan cs).map (·.lexeme) := by
  induction xs generalizing prev start with
  | nil =>
    have hmay : dateMayFollow none = dateMayFollow prev :=
      (hprev.resolve_right fun hne ↦ hne rfl).symm
    exact (walk_scan cs).exists_of_dateMayFollow hmay start
  | cons x xs ih =>
    obtain ⟨hx, hxs⟩ := List.forall_mem_cons.1 hxs
    have hword : isWordChar x = false := (Bool.or_eq_false_iff.1 (hx .word)).1
    have hmay : dateMayFollow (some x) = true := by simp [dateMayFollow, hword]
    obtain ⟨os, hwalk, hos⟩ := ih hxs (.inl hmay) (start + 1)
    have hnone : Lexeme.take? prev (x :: (xs ++ cs)) = none :=
      Lexeme.take?_eq_none_iff.2 fun category ↦ Category.take?_eq_none (hx category) prev _
    exact ⟨os, .pass hnone hwalk, hos⟩

/-- **The walk goes on behind the cut as if nothing had been before it.** -/
theorem Walk.append {blanks rest : List Char} {c : Char} {lexemes : List Lexeme}
    (hblanks : ∀ b ∈ blanks, isBlank b = true) (hc : isSeparator c = true)
    (hbehind : ∀ prev start, ∃ os, Walk prev start (blanks ++ c :: rest) os ∧
      os.map (·.lexeme) = lexemes)
    {prev : Option Char} {start : Nat} {cs : List Char} {os : List Occurrence}
    (h : Walk prev start cs os) (hcs : '"' ∉ cs) :
    ∃ os', Walk prev start (cs ++ (blanks ++ c :: rest)) (os ++ os') ∧
      os'.map (·.lexeme) = lexemes := by
  induction h with
  | done => exact hbehind _ _
  | @pass prev start d cs os htake hw ih =>
    have hnone : Lexeme.take? prev (d :: cs ++ (blanks ++ c :: rest)) = _ :=
      Lexeme.take?_append hcs hblanks hc prev
    rw [htake] at hnone
    obtain ⟨os', hwalk, hos⟩ := ih fun hq ↦ hcs (List.mem_cons_of_mem d hq)
    exact ⟨os', .pass hnone hwalk, hos⟩
  | @take prev start l cs os htake hw ih =>
    have hsome : Lexeme.take? prev (l.chars ++ cs ++ (blanks ++ c :: rest)) = _ :=
      Lexeme.take?_append hcs hblanks hc prev
    rw [htake, List.append_assoc] at hsome
    obtain ⟨os', hwalk, hos⟩ := ih fun hq ↦ hcs (List.mem_append_right _ hq)
    rw [List.append_assoc]
    exact ⟨os', .take hsome hwalk, hos⟩

theorem tokenize_eq_flatMap (cs : List Char) :
    tokenize cs = ((scan cs).map (·.lexeme)).flatMap Lexeme.tokens := by
  rw [tokenize, List.flatMap_map]

/-- **Stray punctuation separates a query into parts** that are read as if each were alone: blanks
may stand around it, and the part before it has no quotes, in which it would be no separator. -/
theorem tokenize_append_separator {before after blanks blanks' : List Char} {c : Char}
    (hbefore : '"' ∉ before) (hblanks : ∀ b ∈ blanks, isBlank b = true)
    (hblanks' : ∀ b ∈ blanks', isBlank b = true) (hc : isSeparator c = true) :
    tokenize (before ++ blanks ++ c :: blanks' ++ after) = tokenize before ++ tokenize after := by
  have hskip : ∀ x ∈ blanks ++ c :: blanks', ∀ category : Category,
      category.opensWith x = false := by
    rw [List.forall_mem_append, List.forall_mem_cons]
    exact ⟨fun x hx ↦ Category.opensWith_eq_false_of_isBlank (hblanks x hx),
      Category.opensWith_eq_false_of_isSeparator hc,
      fun x hx ↦ Category.opensWith_eq_false_of_isBlank (hblanks' x hx)⟩
  have hbehind : ∀ prev start, ∃ os, Walk prev start (blanks ++ c :: (blanks' ++ after)) os ∧
      os.map (·.lexeme) = (scan after).map (·.lexeme) := by
    intro prev start
    have hne : blanks ++ c :: blanks' ≠ [] := by simp
    have hwalk := exists_walk_skip hskip (.inr hne : dateMayFollow prev = true ∨ _) start after
    rwa [List.append_assoc, List.cons_append] at hwalk
  obtain ⟨os, hwalk, hos⟩ := (walk_scan before).append hblanks hc hbehind hbefore
  have hscan : scan (before ++ blanks ++ c :: blanks' ++ after) = scan before ++ os := by
    rw [List.append_assoc, List.append_assoc, List.cons_append]
    exact (walk_iff.1 hwalk).symm
  rw [tokenize_eq_flatMap, hscan, List.map_append, List.flatMap_append, hos, ← tokenize_eq_flatMap,
    ← tokenize_eq_flatMap]

/-- Neither the `OR` before the separator nor the quotes behind it reach across. -/
theorem tokenize_append_separator_or :
    tokenize ("-a OR".toList ++ [' '] ++ ';' :: [' '] ++ "\"b\" \"".toList) =
      tokenize "-a OR".toList ++ tokenize "\"b\" \"".toList := by
  have hbefore : '"' ∉ "-a OR".toList := by decide
  have hblank : ∀ b ∈ [' '], isBlank b = true := List.all_eq_true.1 rfl
  have hmark : isSeparator ';' = true := by decide +kernel
  exact tokenize_append_separator hbefore hblank hblank hmark

end SearchFilter
