import SearchFilter.Proofs.Conditions
import SearchFilter.Proofs.Lexeme.Precedence

/-!
# The grammar of queries

A query can be written as items with blanks between them.  Each item is then read back as it was
meant, whatever the items beside it: none is joined to the next, and none changes what the next one
asks for.

* `Lexeme.IsItem` says which lexemes can be meant so; `Written` puts them together.
* `Written.walk`: the walk through such a query meets its items.
* `run_tokens_of_isItem`: an item gives its condition and leaves no negation behind.
* `parse_written`: a query gives the conditions of its items.
-/

set_option autoImplicit false

namespace SearchFilter

open Unicode

/-! ## Items -/

/-- A word that stands for itself: no part of a date and no connective. -/
structure IsPlainWord (w : List Char) : Prop where
  isWord : IsWord w
  isDigit_eq_false : ∀ c ∈ w, isDigit c = false
  ne_or : w ≠ ['O', 'R']
  ne_to : w ≠ ['T', 'O']

/-- A side of a pair that can be searched for. -/
def Term.IsItem : Term → Prop
  | word w => IsPlainWord w
  | quoted content => '"' ∉ content ∧ ∃ c ∈ content, isWordChar c = true

/-- A gap of plain spaces, at least one. -/
def IsSpaces (gap : List Char) : Prop :=
  gap ≠ [] ∧ ∀ c ∈ gap, c = ' '

/-- What can be asked for in a query: plain words, phrases that are left as phrases when they are
cleaned, dates, and alternatives between spaces. -/
def Lexeme.IsItem : Lexeme → Prop
  | orPair left gap gap' right => left.IsItem ∧ right.IsItem ∧ IsSpaces gap ∧ IsSpaces gap'
  | word _ w => IsPlainWord w
  | phrase negated content =>
    '"' ∉ content ∧ clean (phrase negated content).chars ≠ [] ∧
      classify (clean (phrase negated content).chars) = none
  | l => l.IsWellFormed

/-- What an item asks for. -/
def Lexeme.condition : Lexeme → Condition
  | word negated w => ⟨String.ofList w, if negated then .not else .like⟩
  | l =>
    ⟨String.ofList (clean l.chars), l.category.operator?.getD (if l.isNegated then .not else .like)⟩

/-- Whether a text goes on with a blank, if it goes on. -/
def IsBreak (cs : List Char) : Prop :=
  cs = [] ∨ startsWithBlank cs = true

/-- A query that is written as items with blanks between them. -/
inductive Written : List Lexeme → List Char → Prop
  | done : Written [] []
  | blank {c : Char} {cs : List Char} {items : List Lexeme} (hc : isBlank c = true)
      (h : Written items cs) : Written items (c :: cs)
  | item {l : Lexeme} {rest : List Char} {items : List Lexeme} (hl : l.IsItem)
      (hrest : IsBreak rest) (h : Written items rest) : Written (l :: items) (l.chars ++ rest)

/-! ## Items can be told

The instances run on `List.all` and `List.any`, which look at the members of a list and not at all
the characters there are. -/

instance : DecidablePred IsPlainWord := fun w ↦
  decidable_of_iff
    (IsWord w ∧ w.all (isDigit · == false) = true ∧ w ≠ ['O', 'R'] ∧ w ≠ ['T', 'O'])
    ⟨fun ⟨hw, hd, hor, hto⟩ ↦ ⟨hw, by simpa using hd, hor, hto⟩,
      fun h ↦ ⟨h.isWord, by simpa using h.isDigit_eq_false, h.ne_or, h.ne_to⟩⟩

instance : DecidablePred IsSpaces := fun gap ↦
  decidable_of_iff (gap ≠ [] ∧ gap.all (· == ' ') = true) (by simp [IsSpaces])

instance : DecidablePred Term.IsItem
  | .word w => inferInstanceAs (Decidable (IsPlainWord w))
  | .quoted content =>
    decidable_of_iff ('"' ∉ content ∧ content.any isWordChar = true) (by simp [Term.IsItem])

instance : DecidablePred Lexeme.IsItem
  | .dateRange first gap gap' last =>
    inferInstanceAs (Decidable (first.isWellFormed = true ∧ last.isWellFormed = true ∧
      first.form.style = last.form.style ∧ IsGap gap ∧ IsGap gap'))
  | .comparedDate _ gap d =>
    decidable_of_iff (gap.all isBlank = true ∧ d.isWellFormed = true)
      (by simp [Lexeme.IsItem, Lexeme.IsWellFormed])
  | .date d => inferInstanceAs (Decidable (d.isWellFormed = true))
  | .orPair left gap gap' right =>
    inferInstanceAs (Decidable (left.IsItem ∧ right.IsItem ∧ IsSpaces gap ∧ IsSpaces gap'))
  | .word _ w => inferInstanceAs (Decidable (IsPlainWord w))
  | .phrase negated content =>
    inferInstanceAs (Decidable ('"' ∉ content ∧ clean (Lexeme.phrase negated content).chars ≠ [] ∧
      classify (clean (Lexeme.phrase negated content).chars) = none))

/-! ## The shape of an item -/

theorem IsSpaces.isGap {gap : List Char} (h : IsSpaces gap) : IsGap gap := by
  refine ⟨h.1, fun c hc ↦ ?_⟩
  rw [h.2 c hc]
  rfl

theorem Term.isWellFormed_of_isItem {t : Term} (h : t.IsItem) : t.IsWellFormed := by
  cases t with
  | word w => exact h.isWord
  | quoted content =>
    obtain ⟨hquote, c, hc, -⟩ := h
    exact ⟨List.ne_nil_of_mem hc, hquote⟩

theorem Lexeme.isWellFormed_of_isItem {l : Lexeme} (h : l.IsItem) : l.IsWellFormed := by
  cases l with
  | orPair left gap gap' right =>
    obtain ⟨hleft, hright, hgap, hgap'⟩ := h
    exact ⟨left.isWellFormed_of_isItem hleft, right.isWellFormed_of_isItem hright, hgap.isGap,
      hgap'.isGap⟩
  | word negated w => exact h.isWord
  | phrase negated content => exact h.1
  | _ => exact h

theorem IsPlainWord.isDigit_head?_eq_false {w : List Char} (h : IsPlainWord w) (rest : List Char) :
    ∀ c ∈ (w ++ rest).head?, isDigit c = false := by
  obtain ⟨c, cs, hcs, -⟩ := h.isWord.exists_cons
  rw [hcs, List.cons_append, List.head?_cons]
  rintro _ ⟨⟩
  exact h.isDigit_eq_false c (by simp [hcs])

theorem Lexeme.isDigit_head?_eq_false {l : Lexeme} (h : l.IsItem)
    (hl : l.category.isDated = false) : ∀ c ∈ l.chars.head?, isDigit c = false := by
  have hquote : isDigit '"' = false := by decide
  have hhyphen : isDigit '-' = false := by decide
  cases l with
  | orPair left gap gap' right =>
    cases left with
    | word w =>
      have hhead := h.1.isDigit_head?_eq_false (gap ++ 'O' :: 'R' :: (gap' ++ right.chars))
      simpa [chars, Term.chars] using hhead
    | quoted content => simpa [chars, Term.chars] using hquote
  | word negated w =>
    cases negated with
    | true => simpa [chars, dash] using hhyphen
    | false => simpa [chars, dash] using h.isDigit_head?_eq_false []
  | phrase negated content =>
    cases negated with
    | true => simpa [chars, dash] using hhyphen
    | false => simpa [chars, dash, Term.chars] using hquote
  | _ => exact absurd hl (by simp [category, Category.isDated])

/-! ## What an item starts with -/

/-- An item that starts with a letter starts with a plain word. -/
theorem Lexeme.exists_word_of_isItem {l : Lexeme} (h : l.IsItem) {c : Char}
    (hc : l.chars.head? = some c) (hword : isWordChar c = true) (hdigit : isDigit c = false) :
    ∃ w tail, IsPlainWord w ∧ IsBreak tail ∧ l.chars = w ++ tail := by
  obtain ⟨d, cs, hcs, hopen⟩ := l.exists_cons (isWellFormed_of_isItem h)
  obtain rfl : d = c := by simpa [hcs] using hc
  cases l with
  | orPair left gap gap' right =>
    cases left with
    | word w =>
      obtain ⟨hw, -, hgap, -⟩ := h
      exact ⟨w, gap ++ ('O' :: 'R' :: (gap' ++ right.chars)), hw,
        .inr (startsWithBlank_append hgap.isGap _), by simp [chars, Term.chars]⟩
    | quoted content =>
      obtain rfl : '"' = d := by simpa [chars, Term.chars] using hc
      exact absurd (isWordChar_quote.symm.trans hword) Bool.false_ne_true
  | word negated w =>
    cases negated with
    | true =>
      obtain rfl : '-' = d := by simpa [chars, dash] using hc
      exact absurd (isWordChar_hyphen.symm.trans hword) Bool.false_ne_true
    | false => exact ⟨w, [], h, .inl rfl, by simp [chars, dash]⟩
  | phrase negated content =>
    have hd : d = '-' ∨ d = '"' := by simpa [category, Category.opensWith] using hopen
    rcases hd with rfl | rfl
    · exact absurd (isWordChar_hyphen.symm.trans hword) Bool.false_ne_true
    · exact absurd (isWordChar_quote.symm.trans hword) Bool.false_ne_true
  | _ =>
    rw [Category.opensWith_eq_false_of_isDated rfl hword hdigit] at hopen
    exact absurd hopen Bool.false_ne_true

/-! ## The items beside an item -/

theorem IsBreak.append {xs ys : List Char} (hxs : IsBreak xs) (hys : IsBreak ys) :
    IsBreak (xs ++ ys) := by
  cases xs with
  | nil => exact hys
  | cons x xs => exact .inr (hxs.resolve_left (List.cons_ne_nil x xs))

/-- A break shows where the part of a text before it ends. -/
theorem IsBreak.eq_of_append_eq {v w xs ys : List Char} (hxs : IsBreak xs) (hys : IsBreak ys)
    (hv : ∀ c ∈ v, isBlank c = false) (hw : ∀ c ∈ w, isBlank c = false)
    (h : v ++ xs = w ++ ys) : v = w := by
  have hstop : ∀ {zs : List Char}, IsBreak zs → zs.head?.any (!isBlank ·) = false := by
    rintro zs (rfl | hzs)
    · rfl
    · cases zs with
      | nil => rfl
      | cons z zs => simpa [startsWithBlank] using hzs
  have htake := congrArg (List.takeWhile (!isBlank ·)) h
  rwa [takeWhile_append_of_stop (by simpa using hv) (hstop hxs),
    takeWhile_append_of_stop (by simpa using hw) (hstop hys)] at htake

theorem Lexeme.endsBefore_of_isBreak (l : Lexeme) {rest : List Char} (h : IsBreak rest) :
    l.EndsBefore rest := by
  obtain rfl | hblank := h
  · exact l.endsBefore_nil
  have hword := continuesWord_of_startsWithBlank hblank
  have hdate : startsWithWordChar rest = false := by
    cases rest with
    | nil => rfl
    | cons c cs => exact isWordChar_eq_false_of_isBlank hblank
  cases l with
  | orPair left gap gap' right =>
    cases right with
    | word w => exact hword
    | quoted content => trivial
  | word negated w => exact hword
  | phrase negated content => trivial
  | _ => exact hdate

theorem Lexeme.chars_append_ne_connective {l : Lexeme} (h : l.IsItem) {after : List Char}
    (hafter : IsBreak after) {connective : List Char}
    (hcon : connective = ['O', 'R'] ∨ connective = ['T', 'O']) {gap' : List Char}
    (hgap' : IsGap gap') (rest : List Char) : l.chars ++ after ≠ connective ++ (gap' ++ rest) := by
  intro heq
  obtain ⟨c, tail, hctail, hword, hdigit⟩ : ∃ c tail, connective = c :: tail ∧
      isWordChar c = true ∧ isDigit c = false := by
    rcases hcon with rfl | rfl <;> exact ⟨_, _, rfl, by decide +kernel, by decide +kernel⟩
  have hhead : l.chars.head? = some c := by
    obtain ⟨d, ds, hds, -⟩ := l.exists_cons (isWellFormed_of_isItem h)
    rw [hds, hctail] at heq
    rw [hds, List.head?_cons, (List.cons.inj heq).1]
  obtain ⟨w, tail', hw, htail', hchars⟩ := exists_word_of_isItem h hhead hword hdigit
  have hblank : ∀ x ∈ connective, isBlank x = false := by
    rcases hcon with rfl | rfl <;> rw [List.forall_mem_cons, List.forall_mem_singleton] <;>
      exact ⟨by decide, by decide⟩
  rw [hchars, List.append_assoc] at heq
  have hwcon : w = connective := IsBreak.eq_of_append_eq (htail'.append hafter)
    (.inr (startsWithBlank_append hgap' rest)) (fun _ ↦ hw.isWord.isBlank_eq_false) hblank heq
  exact hcon.elim (fun hor ↦ hw.ne_or (hwcon.trans hor)) fun hto ↦ hw.ne_to (hwcon.trans hto)

/-- **No item starts with a connective**, so none is joined to the item before it. -/
theorem Written.ne_connective {items : List Lexeme} {cs connective : List Char}
    (h : Written items cs) (hcon : connective = ['O', 'R'] ∨ connective = ['T', 'O'])
    {gap gap' rest : List Char} (hgap : ∀ c ∈ gap, isBlank c = true) (hgap' : IsGap gap') :
    cs ≠ gap ++ (connective ++ (gap' ++ rest)) := by
  -- the blanks before the next item are the gap before the connective, one by one
  induction h generalizing gap with
  | done => rcases hcon with rfl | rfl <;> simp
  | @blank c cs items hc h ih =>
    intro heq
    cases gap with
    | nil =>
      rcases hcon with rfl | rfl <;> rw [(List.cons.inj heq).1] at hc <;>
        exact absurd hc (by decide)
    | cons b gap =>
      exact ih (fun x hx ↦ hgap x (List.mem_cons_of_mem b hx)) (List.cons.inj heq).2
  | @item l after items hl hafter h ih =>
    cases gap with
    | nil => exact Lexeme.chars_append_ne_connective hl hafter hcon hgap' rest
    | cons b gap =>
      intro heq
      obtain ⟨c, cs, hcs, hopen⟩ := l.exists_cons (Lexeme.isWellFormed_of_isItem hl)
      have hb := hgap b List.mem_cons_self
      rw [hcs] at heq
      rw [← (List.cons.inj heq).1, Category.isBlank_eq_false_of_opensWith hopen] at hb
      exact Bool.false_ne_true hb

theorem Written.not_isJoinedTo {items : List Lexeme} {rest : List Char} (h : Written items rest)
    (l : Lexeme) : ¬l.IsJoinedTo rest := by
  have hnone : ∀ {c : Char} {connective : List Char}, isBlank c = false →
      c :: connective = ['O', 'R'] ∨ c :: connective = ['T', 'O'] →
      ¬(takeConnective? (c :: connective) rest).isSome = true := by
    intro c connective hc hcon hsome
    obtain ⟨⟨gap, gap', after⟩, htake⟩ := Option.isSome_iff_exists.1 hsome
    obtain ⟨hgap, hgap', -, hrest⟩ := (takeConnective?_eq_some_iff hc).1 htake
    exact h.ne_connective hcon hgap.2 hgap' (by simpa using hrest)
  cases l with
  | date d => exact hnone (by decide) (.inr rfl)
  | word negated w => exact hnone (by decide) (.inl rfl)
  | phrase negated content => exact hnone (by decide) (.inl rfl)
  | _ => exact id

/-! ## Reading the items back -/

theorem dateMayFollow_of_isBlank {c : Char} (h : isBlank c = true) :
    dateMayFollow (some c) = true := by
  simp [dateMayFollow, isWordChar_eq_false_of_isBlank h]

theorem Lexeme.mayFollow_of_dateMayFollow (l : Lexeme) {prev : Option Char}
    (h : dateMayFollow prev = true) : l.MayFollow prev := by
  cases l with
  | dateRange first gap gap' last => exact h
  | date d => exact h
  | _ => trivial

/-- **The walk through a written query meets its items**, from its start or from a break on. -/
theorem Written.walk {items : List Lexeme} {cs : List Char} (h : Written items cs)
    {prev : Option Char} (hprev : dateMayFollow prev = true ∨ IsBreak cs) (start : Nat) :
    ∃ os, Walk prev start cs os ∧ os.map (·.lexeme) = items := by
  induction h generalizing prev start with
  | done => exact ⟨[], .done, rfl⟩
  | @blank c cs items hc h ih =>
    obtain ⟨os, hwalk, hos⟩ := ih (.inl (dateMayFollow_of_isBlank hc)) (start + 1)
    refine ⟨os, .pass (Lexeme.take?_eq_none_iff.2 fun category ↦ ?_) hwalk, hos⟩
    refine Category.take?_eq_none (Bool.eq_false_iff.2 fun hopen ↦ ?_) prev cs
    rw [Category.isBlank_eq_false_of_opensWith hopen] at hc
    exact Bool.false_ne_true hc
  | @item l rest items hl hrest h ih =>
    have hwf := Lexeme.isWellFormed_of_isItem hl
    have hstart : dateMayFollow prev = true := by
      refine hprev.resolve_right fun hbreak ↦ ?_
      obtain ⟨c, cs, hcs, hopen⟩ := l.exists_cons hwf
      rw [hcs] at hbreak
      have hc := hbreak.resolve_left (List.cons_ne_nil _ _)
      exact Bool.false_ne_true ((Category.isBlank_eq_false_of_opensWith hopen).symm.trans hc)
    obtain ⟨os, hwalk, hos⟩ := ih (.inr hrest) (start + l.chars.length)
    refine ⟨⟨start, l⟩ :: os, .take ?_ hwalk, by rw [List.map_cons, hos]⟩
    exact Lexeme.take?_chars_append hwf (l.mayFollow_of_dateMayFollow hstart)
      (l.endsBefore_of_isBreak hrest) (Lexeme.isDigit_head?_eq_false hl) (h.not_isJoinedTo l)

/-! ## What the items ask for -/

theorem IsPlainWord.classify_eq_none {w : List Char} (h : IsPlainWord w) : classify w = none := by
  rw [Option.eq_none_iff_forall_ne_some]
  intro op hop
  rcases eq_or_or_isDate_of_classify hop with rfl | hdate
  · have hspace := (mem_of_isAlternative (classify_eq_or_iff.1 hop)).1
    exact absurd (h.isWord.isBlank_eq_false hspace) (by decide)
  · obtain ⟨l, hl, -, hwf, rfl⟩ := exists_of_classify_isDate hop hdate
    obtain ⟨c, cs, hcs, hopen⟩ := l.exists_cons hwf
    obtain ⟨d, ds, hds, hword⟩ := h.isWord.exists_cons
    obtain rfl : c = d := (List.cons.inj (hcs.symm.trans hds)).1
    have hdigit := h.isDigit_eq_false c (by simp [hcs])
    rw [Category.opensWith_eq_false_of_isDated hl hword hdigit] at hopen
    exact Bool.false_ne_true hopen

theorem Term.exists_isWordChar_of_isItem {t : Term} (h : t.IsItem) :
    ∃ c ∈ t.chars, isWordChar c = true := by
  cases t with
  | word w =>
    obtain ⟨c, cs, rfl, hc⟩ := (IsPlainWord.isWord h).exists_cons
    exact ⟨c, List.mem_cons_self, hc⟩
  | quoted content =>
    obtain ⟨-, c, hc, hword⟩ := h
    exact ⟨c, by simp [chars, hc], hword⟩

/-- **Alternatives between spaces are classified as alternatives.** -/
theorem classify_clean_chars_orPair {left right : Term} {gap gap' : List Char}
    (h : (Lexeme.orPair left gap gap' right).IsItem) :
    classify (clean (Lexeme.orPair left gap gap' right).chars) = some .or := by
  obtain ⟨hleft, hright, hgap, hgap'⟩ := h
  have hlast : gap.getLast? = some ' ' := by
    rw [List.getLast?_eq_some_getLast hgap.1, hgap.2 _ (List.getLast_mem hgap.1)]
  have hhead : gap'.head? = some ' ' := by
    rw [List.head?_eq_some_head hgap'.1, hgap'.2 _ (List.head_mem hgap'.1)]
  obtain ⟨c, hc, hcword⟩ := left.exists_isWordChar_of_isItem hleft
  obtain ⟨d, hd, hdword⟩ := right.exists_isWordChar_of_isItem hright
  have hne := clean_ne_space ⟨c, List.mem_append_left gap hc, hcword⟩
  have hne' := clean_ne_space ⟨d, List.mem_append_right gap' hd, hdword⟩
  rw [classify_eq_or_iff, clean_chars_orPair hgap'.isGap, isAlternative_append_iff]
  exact .inl ((between_spaces_iff hgap.isGap hgap'.isGap).2 ⟨hlast, hhead, hne, hne'⟩)

/-- **An item gives its condition**, and no negation waits behind it. -/
theorem run_tokens_of_isItem {l : Lexeme} (h : l.IsItem) :
    NegationState.clear.run l.tokens = (.clear, [l.condition]) := by
  cases l with
  | orPair left gap gap' right =>
    exact NegationState.run_tokens_of_classify rfl (classify_clean_chars_orPair h) _
  | word negated w =>
    have hclean := clean_chars_word (IsPlainWord.isWord h) negated
    have hne : clean (Lexeme.word negated w).chars ≠ [] := by
      rw [hclean]
      exact (IsPlainWord.isWord h).ne_nil
    have hclass : classify (clean (Lexeme.word negated w).chars) = none := by
      rw [hclean, IsPlainWord.classify_eq_none h]
    rw [NegationState.run_tokens_of_classify_eq_none hne hclass, hclean]
    rfl
  | phrase negated content =>
    obtain ⟨-, hne, hclass⟩ := h
    exact NegationState.run_tokens_of_classify_eq_none hne hclass
  | _ =>
    have hclass := classify_clean_chars_of_isDated rfl (Lexeme.isWellFormed_of_isItem h)
    exact NegationState.run_tokens_of_classify rfl hclass _

theorem run_tokens_of_items {items : List Lexeme} (h : ∀ l ∈ items, l.IsItem) :
    NegationState.clear.run (items.flatMap Lexeme.tokens) =
      (.clear, items.map Lexeme.condition) := by
  induction items with
  | nil => rfl
  | cons l items ih =>
    rw [List.flatMap_cons, NegationState.run_append, run_tokens_of_isItem (h l List.mem_cons_self),
      ih fun m hm ↦ h m (List.mem_cons_of_mem l hm), List.map_cons, List.singleton_append]

theorem Written.isItem_of_mem {items : List Lexeme} {cs : List Char} (h : Written items cs) :
    ∀ l ∈ items, l.IsItem := by
  induction h with
  | done => simp
  | blank _ _ ih => exact ih
  | item hl _ _ ih => exact List.forall_mem_cons.2 ⟨hl, ih⟩

/-- **A query that is written as items gives the conditions of its items**, one for each and in
their order. -/
theorem parse_written {items : List Lexeme} {cs : List Char} (h : Written items cs)
    (hlen : cs.length ≤ Query.maxLength) :
    (Query.parse (some (String.ofList cs))).value = items.map Lexeme.condition := by
  have hprev : dateMayFollow none = true := rfl
  obtain ⟨os, hwalk, hos⟩ := h.walk (.inl hprev) 0
  have hscan : scan cs = os := (walk_iff.1 hwalk).symm
  have htokens : tokenize cs = items.flatMap Lexeme.tokens := by
    rw [tokenize, hscan, ← hos, List.flatMap_map]
  rw [Query.value_parse_of_length_le (by rwa [String.length_ofList]), String.toList_ofList, htokens,
    buildConditions, run_tokens_of_items h.isItem_of_mem]

/-- Each kind of item, one behind the other. -/
theorem parse_written_mixed :
    (Query.parse (some " -x\t\"a  b\" \"c\" OR d  >=2009-01-01")).value =
      [⟨"x", .not⟩, ⟨"a b", .like⟩, ⟨"c OR d", .or⟩, ⟨">=2009-01-01", .compared .atLeast⟩] := by
  have hword : (Lexeme.word true ['x']).IsItem := by decide +kernel
  have hphrase : (Lexeme.phrase false "a  b".toList).IsItem := by decide +kernel
  have hpair : (Lexeme.orPair (.quoted ['c']) [' '] [' '] (.word ['d'])).IsItem := by
    decide +kernel
  have hdate : (Lexeme.comparedDate .atLeast []
      ⟨.dashed, "2009".toList, "01".toList, "01".toList⟩).IsItem := by
    decide +kernel
  have hwritten : Written [_, _, _, _] " -x\t\"a  b\" \"c\" OR d  >=2009-01-01".toList :=
    .blank rfl (.item hword (.inr rfl) (.blank rfl (.item hphrase (.inr rfl) (.blank rfl
      (.item hpair (.inr rfl) (.blank rfl (.blank rfl (.item hdate (.inl rfl) .done))))))))
  exact parse_written hwritten (by decide)

end SearchFilter
