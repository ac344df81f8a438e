import SearchFilter.Proofs.Characters

/-!
# Words, quoted texts and connectives

What the functions that take one part of a lexeme off a text accept.  Each part has a shape of its
own, said without the function that takes it, and for the parts that are taken as long as they can
be, a condition on what follows.

* `IsWord` and `takeWord?_eq_some_iff` for words.
* `takeQuoted?_eq_some_iff` for quoted texts.
* `Term.take?_eq_some_iff` for the terms of a pair.
* `takeConnective?_eq_some_iff` for a connective with the blanks around it.
-/

set_option autoImplicit false

namespace SearchFilter

open Unicode

/-! ## Words -/

/-- A word: word characters, with single joiners between them. -/
inductive IsWord : List Char → Prop
  | single {c : Char} (hc : isWordChar c = true) : IsWord [c]
  | cons {c : Char} {w : List Char} (hc : isWordChar c = true) (hw : IsWord w) : IsWord (c :: w)
  | join {c j : Char} {w : List Char} (hc : isWordChar c = true) (hj : isJoiner j = true)
      (hw : IsWord w) : IsWord (c :: j :: w)

/-- Whether a text would make a word before it longer. -/
def continuesWord : List Char → Bool
  | [] => false
  | c :: cs => isWordChar c || isJoiner c && startsWithWordChar cs

theorem IsWord.exists_cons {w : List Char} (h : IsWord w) :
    ∃ c cs, w = c :: cs ∧ isWordChar c = true := by
  cases h with
  | single hc => exact ⟨_, _, rfl, hc⟩
  | cons hc _ => exact ⟨_, _, rfl, hc⟩
  | join hc _ _ => exact ⟨_, _, rfl, hc⟩

theorem IsWord.ne_nil {w : List Char} (h : IsWord w) : w ≠ [] := by
  obtain ⟨c, cs, rfl, -⟩ := h.exists_cons
  exact List.cons_ne_nil c cs

theorem IsWord.startsWithWordChar_append {w : List Char} (h : IsWord w) (rest : List Char) :
    startsWithWordChar (w ++ rest) = true := by
  obtain ⟨c, cs, rfl, hc⟩ := h.exists_cons
  exact hc

theorem IsWord.mem {w : List Char} (h : IsWord w) {c : Char} (hc : c ∈ w) :
    isWordChar c = true ∨ isJoiner c = true := by
  induction h with
  | single h => exact .inl (List.mem_singleton.1 hc ▸ h)
  | cons h _ ih =>
    rcases List.mem_cons.1 hc with rfl | hc
    · exact .inl h
    · exact ih hc
  | join h hj _ ih =>
    rcases List.mem_cons.1 hc with rfl | hc
    · exact .inl h
    · rcases List.mem_cons.1 hc with rfl | hc
      · exact .inr hj
      · exact ih hc

theorem isBlank_eq_false_of_isJoiner {c : Char} (h : isJoiner c = true) : isBlank c = false := by
  simp only [isJoiner, List.contains_cons, List.contains_nil, Bool.or_false, Bool.or_eq_true,
    beq_iff_eq] at h
  rcases h with rfl | rfl | rfl | rfl <;> decide

theorem IsWord.isBlank_eq_false {w : List Char} (h : IsWord w) {c : Char} (hc : c ∈ w) :
    isBlank c = false :=
  (h.mem hc).elim isBlank_eq_false_of_isWordChar isBlank_eq_false_of_isJoiner

theorem wordRest_append (cs : List Char) : (wordRest cs).1 ++ (wordRest cs).2 = cs := by
  induction cs with
  | nil => rfl
  | cons c cs ih =>
    rw [wordRest]
    split
    · rw [List.cons_append, ih]
    · rfl

theorem continuesWord_wordRest (cs : List Char) : continuesWord (wordRest cs).2 = false := by
  induction cs with
  | nil => rfl
  | cons c cs ih =>
    rw [wordRest]
    split
    · exact ih
    · next h => simpa [continuesWord] using h

/-- The recursion follows the two ways in which a word goes on behind a word character. -/
theorem isWord_wordRest : ∀ {cs : List Char}, startsWithWordChar cs = true → IsWord (wordRest cs).1
  | [c], h => by
    have hc : isWordChar c = true := h
    rw [wordRest, if_pos (by simp [hc])]
    exact .single hc
  | c :: d :: cs, h => by
    have hc : isWordChar c = true := h
    rw [wordRest, if_pos (by simp [hc])]
    cases hd : isWordChar d with
    | true => exact .cons hc (isWord_wordRest hd)
    | false =>
      rw [wordRest]
      split
      · next hj =>
        rw [hd, Bool.false_or, Bool.and_eq_true] at hj
        exact .join hc hj.1 (isWord_wordRest hj.2)
      · exact .single hc

theorem wordRest_eq {w rest : List Char} (hw : IsWord w) (hrest : continuesWord rest = false) :
    wordRest (w ++ rest) = (w, rest) := by
  have hstop : wordRest rest = ([], rest) := by
    cases rest with
    | nil => rfl
    | cons c cs =>
      rw [wordRest]
      exact if_neg (by simpa [continuesWord] using hrest)
  induction hw with
  | single hc => rw [List.singleton_append, wordRest, if_pos (by simp [hc]), hstop]
  | cons hc _ ih => rw [List.cons_append, wordRest, if_pos (by simp [hc]), ih]
  | join hc hj hw ih =>
    rw [List.cons_append, List.cons_append, wordRest, if_pos (by simp [hc]), wordRest,
      if_pos (by simp [hj, hw.startsWithWordChar_append]), ih]

/-- **A word is taken as long as it can be.** -/
theorem takeWord?_eq_some_iff {cs w rest : List Char} :
    takeWord? cs = some (w, rest) ↔
      IsWord w ∧ continuesWord rest = false ∧ cs = w ++ rest := by
  rw [takeWord?]
  constructor
  · intro h
    split at h
    · next hs =>
      rw [Option.some.injEq] at h
      have happ := wordRest_append cs
      have hstop := continuesWord_wordRest cs
      have hword := isWord_wordRest hs
      rw [h] at happ hstop hword
      exact ⟨hword, hstop, happ.symm⟩
    · simp at h
  · rintro ⟨hw, hrest, rfl⟩
    rw [if_pos (hw.startsWithWordChar_append rest), wordRest_eq hw hrest]

theorem isWord_iff {w : List Char} : IsWord w ↔ takeWord? w = some (w, []) := by
  rw [takeWord?_eq_some_iff]
  exact ⟨fun h ↦ ⟨h, rfl, (List.append_nil w).symm⟩, fun h ↦ h.1⟩

instance : DecidablePred IsWord := fun _ ↦ decidable_of_iff' _ isWord_iff

/-! ## Quoted texts -/

theorem takeQuoted?_eq_some_iff {cs content rest : List Char} :
    takeQuoted? cs = some (content, rest) ↔
      '"' ∉ content ∧ cs = '"' :: (content ++ '"' :: rest) := by
  have hne : ∀ {xs : List Char}, (∀ x ∈ xs, (x != '"') = true) ↔ '"' ∉ xs := by
    intro xs
    simp only [bne_iff_ne, ne_eq]
    exact ⟨fun h hm ↦ h _ hm rfl, fun h x hx he ↦ h (he ▸ hx)⟩
  constructor
  · intro h
    unfold takeQuoted? at h
    split at h
    · next cs =>
      split at h
      · simp at h
      · next q rest' hdrop =>
        have hq : (q != '"') = false := by
          have := head?_any_dropWhile (· != '"') cs
          rw [hdrop] at this
          exact this
        obtain ⟨rfl, rfl⟩ : cs.takeWhile (· != '"') = content ∧ rest' = rest := by simpa using h
        refine ⟨hne.1 fun x hx ↦ List.mem_takeWhile_imp (p := (· != '"')) hx, ?_⟩
        rw [show q = '"' by simpa using hq] at hdrop
        rw [← hdrop, List.takeWhile_append_dropWhile]
    · simp at h
  · rintro ⟨hc, rfl⟩
    have hstop : ('"' :: rest).head?.any (· != '"') = false := rfl
    rw [takeQuoted?, takeWhile_append_of_stop (hne.2 hc) hstop,
      dropWhile_append_of_stop (hne.2 hc) hstop]

/-! ## Terms -/

/-- The shape of a term: a word, or a text in quotes that is not empty. -/
def Term.IsWellFormed : Term → Prop
  | word w => IsWord w
  | quoted content => content ≠ [] ∧ '"' ∉ content

/-- Whether a term ends where a text begins. -/
def Term.EndsBefore : Term → List Char → Prop
  | word _, rest => continuesWord rest = false
  | quoted _, _ => True

theorem Term.take?_eq_some_iff {cs rest : List Char} {t : Term} :
    Term.take? cs = some (t, rest) ↔
      t.IsWellFormed ∧ t.EndsBefore rest ∧ cs = t.chars ++ rest := by
  constructor
  · intro h
    unfold Term.take? at h
    split at h
    · simp at h
    · next content rest' hne hq =>
      simp only [Option.some.injEq, Prod.mk.injEq] at h
      obtain ⟨rfl, rfl⟩ := h
      obtain ⟨hmem, hcs⟩ := takeQuoted?_eq_some_iff.1 hq
      refine ⟨⟨hne, hmem⟩, trivial, ?_⟩
      simpa [Term.chars] using hcs
    · next w rest' _ hw =>
      simp only [Option.some.injEq, Prod.mk.injEq] at h
      obtain ⟨rfl, rfl⟩ := h
      exact takeWord?_eq_some_iff.1 hw
    · simp at h
  · rintro ⟨ht, hrest, rfl⟩
    cases t with
    | word w =>
      have hw := takeWord?_eq_some_iff.2 ⟨ht, hrest, rfl⟩
      have hq : takeQuoted? (w ++ rest) = none := by
        rw [Option.eq_none_iff_forall_ne_some]
        rintro ⟨content, rest'⟩ hq
        obtain ⟨c, cs, rfl, hc⟩ := IsWord.exists_cons ht
        obtain ⟨-, hcs⟩ := takeQuoted?_eq_some_iff.1 hq
        rw [(List.cons.inj hcs).1, isWordChar_quote] at hc
        exact Bool.false_ne_true hc
      simp only [Term.take?, Term.chars, hq, hw]
    | quoted content =>
      have hq : takeQuoted? ((quoted content).chars ++ rest) = some (content, rest) :=
        takeQuoted?_eq_some_iff.2 ⟨ht.2, by simp [Term.chars]⟩
      obtain ⟨c, cs, rfl⟩ := List.exists_cons_of_ne_nil ht.1
      simp only [Term.take?, hq]

/-! ## Connectives -/

theorem dropLead?_eq_some_iff {lead cs rest : List Char} :
    dropLead? lead cs = some rest ↔ cs = lead ++ rest := by
  induction lead generalizing cs with
  | nil => simp [dropLead?]
  | cons l lead ih =>
    cases cs with
    | nil => simp [dropLead?]
    | cons c cs =>
      rw [dropLead?]
      split
      · next h => rw [ih, h, List.cons_append, List.cons.injEq, and_iff_right rfl]
      · next h =>
        rw [List.cons_append, List.cons.injEq]
        exact ⟨fun hn ↦ absurd hn (by simp), fun he ↦ absurd he.1.symm h⟩

/-- Whether a text starts with a blank. -/
def startsWithBlank (cs : List Char) : Bool :=
  cs.head?.any isBlank

/-- A gap between two parts of a lexeme: blanks, at least one. -/
def IsGap (gap : List Char) : Prop :=
  gap ≠ [] ∧ ∀ c ∈ gap, isBlank c = true

instance : DecidablePred IsGap := fun gap ↦
  decidable_of_iff (gap ≠ [] ∧ gap.all isBlank = true) (by simp [IsGap])

theorem startsWithBlank_append {gap : List Char} (h : IsGap gap) (rest : List Char) :
    startsWithBlank (gap ++ rest) = true := by
  obtain ⟨c, cs, rfl⟩ := List.exists_cons_of_ne_nil h.1
  exact h.2 c List.mem_cons_self

theorem takeBlanks_eq_iff {cs gap rest : List Char} :
    takeBlanks cs = (gap, rest) ↔
      (∀ c ∈ gap, isBlank c = true) ∧ startsWithBlank rest = false ∧ cs = gap ++ rest := by
  rw [takeBlanks, Prod.mk.injEq]
  constructor
  · rintro ⟨rfl, rfl⟩
    exact ⟨fun c hc ↦ List.mem_takeWhile_imp hc, head?_any_dropWhile isBlank cs,
      List.takeWhile_append_dropWhile.symm⟩
  · rintro ⟨hgap, hrest, rfl⟩
    exact ⟨takeWhile_append_of_stop hgap hrest, dropWhile_append_of_stop hgap hrest⟩

/-- **A connective stands between two gaps**, of which all blanks are taken. -/
theorem takeConnective?_eq_some_iff {c : Char} {connective cs gap gap' rest : List Char}
    (hc : isBlank c = false) :
    takeConnective? (c :: connective) cs = some (gap, gap', rest) ↔
      IsGap gap ∧ IsGap gap' ∧ startsWithBlank rest = false ∧
        cs = gap ++ (c :: connective) ++ gap' ++ rest := by
  constructor
  · intro h
    unfold takeConnective? at h
    split at h
    · simp at h
    · next gap₀ rest₀ hne hblanks =>
      split at h
      · simp at h
      · simp at h
      · next gap₁ rest₁ hne' hlead =>
        simp only [Option.some.injEq, Prod.mk.injEq] at h
        obtain ⟨rfl, rfl, rfl⟩ := h
        obtain ⟨rest₂, hrest₂, hblanks'⟩ := Option.map_eq_some_iff.1 hlead
        obtain ⟨hgap, -, rfl⟩ := takeBlanks_eq_iff.1 hblanks
        obtain ⟨hgap', hstop, rfl⟩ := takeBlanks_eq_iff.1 hblanks'
        rw [dropLead?_eq_some_iff] at hrest₂
        exact ⟨⟨hne, hgap⟩, ⟨hne', hgap'⟩, hstop, by simp [hrest₂]⟩
  · rintro ⟨hgap, hgap', hrest, rfl⟩
    have hblanks : takeBlanks (gap ++ (c :: connective) ++ gap' ++ rest) =
        (gap, (c :: connective) ++ (gap' ++ rest)) :=
      takeBlanks_eq_iff.2 ⟨hgap.2, hc, by simp⟩
    have hlead : dropLead? (c :: connective) ((c :: connective) ++ (gap' ++ rest)) =
        some (gap' ++ rest) := dropLead?_eq_some_iff.2 rfl
    have hblanks' : takeBlanks (gap' ++ rest) = (gap', rest) :=
      takeBlanks_eq_iff.2 ⟨hgap'.2, hrest, rfl⟩
    obtain ⟨b, bs, rfl⟩ := List.exists_cons_of_ne_nil hgap.1
    obtain ⟨b', bs', rfl⟩ := List.exists_cons_of_ne_nil hgap'.1
    simp only [takeConnective?, hblanks, hlead, Option.map_some, hblanks']

end SearchFilter
