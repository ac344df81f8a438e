import Mathlib.Algebra.Ring.Parity
import Mathlib.Data.List.Count
import SearchFilter.Proofs.Cleaning
import SearchFilter.Proofs.Lexeme.Span

/-!
# The quotes of a query

Every lexeme has an even number of double quotes, and where a quote is passed over no other is left.
So the quotes of a query are those of its lexemes, one behind the other, and at most one more.
Paired from left to right they are paired within the lexemes.

* `quotePlaces` lists where the quotes of a text stand, `pairs` pairs the elements of a list.
* `Course.exists_quotePlaces_eq`: the quotes of a query are those of its lexemes.
* `pairs_quotePlaces`: the pairs of quotes of a query are those of its lexemes.
* `quotes_pair_up`: a text between two quotes of a pair is never split.
-/

set_option autoImplicit false

namespace SearchFilter

open Unicode

/-! ## Pairs -/

section Pairs

variable {α β : Type}

/-- The first element with the second, the third with the fourth, and so on. -/
def pairs : List α → List (α × α)
  | a :: b :: xs => (a, b) :: pairs xs
  | _ => []

theorem pairs_of_length_le_one : ∀ {xs : List α}, xs.length ≤ 1 → pairs xs = []
  | [], _ | [_], _ => rfl
  | _ :: _ :: _, h => absurd h (by simp)

theorem pairs_append {ys : List α} :
    ∀ {xs : List α}, Even xs.length → pairs (xs ++ ys) = pairs xs ++ pairs ys
  | [], _ => rfl
  | [_], h => absurd h Nat.not_even_one
  | a :: b :: xs, h => by
    have heven : Even xs.length := by simpa [Nat.even_add_one] using h
    rw [List.cons_append, List.cons_append, pairs, pairs, pairs_append heven, List.cons_append]

theorem even_length_flatMap {f : β → List α} {zs : List β} (h : ∀ z ∈ zs, Even (f z).length) :
    Even (zs.flatMap f).length := by
  induction zs with
  | nil => exact Even.zero
  | cons z zs ih =>
    rw [List.forall_mem_cons] at h
    rw [List.flatMap_cons, List.length_append]
    exact h.1.add (ih h.2)

theorem pairs_flatMap {f : β → List α} {zs : List β} (h : ∀ z ∈ zs, Even (f z).length) :
    pairs (zs.flatMap f) = zs.flatMap fun z ↦ pairs (f z) := by
  induction zs with
  | nil => rfl
  | cons z zs ih =>
    rw [List.forall_mem_cons] at h
    rw [List.flatMap_cons, List.flatMap_cons, pairs_append h.1, ih h.2]

theorem mem_pairs_iff {a b : α} :
    ∀ {xs : List α}, (a, b) ∈ pairs xs ↔ ∃ k, xs[2 * k]? = some a ∧ xs[2 * k + 1]? = some b
  | [] => by simp [pairs]
  | [c] => by simp [pairs]
  | c :: d :: xs => by
    rw [pairs, List.mem_cons, Prod.mk.injEq, mem_pairs_iff]
    constructor
    · rintro (⟨rfl, rfl⟩ | ⟨k, ha, hb⟩)
      · exact ⟨0, rfl, rfl⟩
      · exact ⟨k + 1, ha, hb⟩
    · rintro ⟨k, ha, hb⟩
      cases k with
      | zero => exact .inl ⟨(Option.some.inj ha).symm, (Option.some.inj hb).symm⟩
      | succ k => exact .inr ⟨k, ha, hb⟩

theorem mem_of_mem_pairs {xs : List α} {a b : α} (h : (a, b) ∈ pairs xs) : a ∈ xs ∧ b ∈ xs := by
  obtain ⟨k, ha, hb⟩ := mem_pairs_iff.1 h
  exact ⟨List.mem_of_getElem? ha, List.mem_of_getElem? hb⟩

theorem rel_of_mem_pairs {R : α → α → Prop} {xs : List α} {a b : α} (hxs : xs.Pairwise R)
    (h : (a, b) ∈ pairs xs) : R a b := by
  obtain ⟨k, ha, hb⟩ := mem_pairs_iff.1 h
  obtain ⟨hlt, rfl⟩ := List.getElem?_eq_some_iff.1 ha
  obtain ⟨hlt', rfl⟩ := List.getElem?_eq_some_iff.1 hb
  exact List.pairwise_iff_getElem.1 hxs _ _ hlt hlt' (Nat.lt_succ_self _)

end Pairs

/-! ## The places of quotes -/

/-- The places of the double quotes in a text with `start` characters before it. -/
def quotePlaces (start : Nat) (cs : List Char) : List Nat :=
  cs.idxsOf '"' start

section Places

variable {start i : Nat} {cs : List Char}

theorem length_quotePlaces : (quotePlaces start cs).length = cs.count '"' :=
  List.length_idxsOf

theorem quotePlaces_eq_nil (h : '"' ∉ cs) : quotePlaces start cs = [] := by
  rw [← List.length_eq_zero_iff, length_quotePlaces, List.count_eq_zero_of_not_mem h]

theorem quotePlaces_append (xs ys : List Char) :
    quotePlaces start (xs ++ ys) = quotePlaces start xs ++ quotePlaces (start + xs.length) ys :=
  List.idxsOf_append

theorem quotePlaces_quote : quotePlaces start ('"' :: cs) = start :: quotePlaces (start + 1) cs :=
  List.idxsOf_cons

theorem quotePlaces_of_ne {c : Char} (h : c ≠ '"') :
    quotePlaces start (c :: cs) = quotePlaces (start + 1) cs := by
  rw [quotePlaces, List.idxsOf_cons, if_neg (by simpa using h), quotePlaces]

theorem bounds_of_mem_quotePlaces (h : i ∈ quotePlaces start cs) :
    start ≤ i ∧ i < start + cs.length := by
  rw [Nat.add_comm]
  exact ⟨List.ge_of_mem_idxsOf i h, List.lt_add_of_mem_idxsOf i h⟩

theorem quote_mem_of_mem_quotePlaces (h : i ∈ quotePlaces start cs) : '"' ∈ cs := by
  by_contra hmem
  rw [quotePlaces_eq_nil hmem] at h
  exact List.not_mem_nil h

end Places

/-! ## The quotes of a lexeme -/

theorem quote_not_mem_gap {gap : List Char} (h : ∀ c ∈ gap, isBlank c = true) : '"' ∉ gap :=
  fun hmem ↦ absurd (h _ hmem) (by decide)

theorem Term.count_quote_quoted {content : List Char} (h : '"' ∉ content) :
    (quoted content).chars.count '"' = 2 := by
  rw [chars, List.count_cons_self, List.count_append, List.count_eq_zero_of_not_mem h]
  rfl

theorem Term.even_count_quote {t : Term} (h : t.IsWellFormed) : Even (t.chars.count '"') := by
  cases t with
  | word w =>
    rw [chars, List.count_eq_zero_of_not_mem (IsWord.isSolid h).quote_not_mem]
    exact Even.zero
  | quoted content =>
    rw [count_quote_quoted h.2]
    exact even_two

/-- Only phrases and pairs of alternatives have quotes. -/
theorem Lexeme.category_of_quote_mem {l : Lexeme} (h : l.IsWellFormed) (hq : '"' ∈ l.chars) :
    l.category = .string ∨ l.category = .orPair := by
  cases l with
  | orPair left gap gap' right => exact .inr rfl
  | phrase negated content => exact .inl rfl
  | word negated w =>
    have hw := (IsWord.isSolid h).quote_not_mem
    cases negated <;> simp [chars, dash, hw] at hq
  | dateRange first gap gap' last =>
    obtain ⟨hfirst, hlast, -, hgap, hgap'⟩ := h
    have hfirst := (WrittenDate.isSolid hfirst).quote_not_mem
    have hlast := (WrittenDate.isSolid hlast).quote_not_mem
    simp [chars, hfirst, hlast, quote_not_mem_gap hgap.2, quote_not_mem_gap hgap'.2] at hq
  | comparedDate comparison gap d =>
    cases comparison <;>
      simp [chars, Comparison.sign, (WrittenDate.isSolid h.2).quote_not_mem,
        quote_not_mem_gap h.1] at hq
  | date d => exact absurd hq (WrittenDate.isSolid h).quote_not_mem

/-- **Every lexeme has an even number of quotes.** -/
theorem Lexeme.even_count_quote {l : Lexeme} (h : l.IsWellFormed) :
    Even (l.chars.count '"') := by
  by_cases hq : '"' ∈ l.chars
  · cases l with
    | orPair left gap gap' right =>
      obtain ⟨hleft, hright, hgap, hgap'⟩ := h
      have hcount : (orPair left gap gap' right).chars.count '"' =
          left.chars.count '"' + right.chars.count '"' := by
        simp [chars, List.count_eq_zero_of_not_mem (quote_not_mem_gap hgap.2),
          List.count_eq_zero_of_not_mem (quote_not_mem_gap hgap'.2)]
      rw [hcount]
      exact (Term.even_count_quote hleft).add (Term.even_count_quote hright)
    | phrase negated content =>
      have hdash : (dash negated).count '"' = 0 := by cases negated <;> rfl
      rw [chars, List.count_append, hdash, Term.count_quote_quoted h]
      exact even_two
    | _ => exact absurd (category_of_quote_mem h hq) (by simp [category])
  · rw [List.count_eq_zero_of_not_mem hq]
    exact Even.zero

/-- Where a quote starts no lexeme, no other quote follows. -/
theorem quote_not_mem_of_take?_eq_none {prev : Option Char} {cs : List Char}
    (h : Lexeme.take? prev ('"' :: cs) = none) : '"' ∉ cs := by
  intro hmem
  obtain ⟨content, rest, rfl, hcontent⟩ := List.eq_append_cons_of_mem hmem
  have hphrase : (Lexeme.phrase false content).chars ++ rest =
      '"' :: (content ++ '"' :: rest) := by
    simp [Lexeme.chars, Lexeme.dash, Term.chars]
  rw [← hphrase] at h
  exact absurd h (Lexeme.take?_chars_append_ne_none trivial hcontent trivial)

/-! ## The quotes of a query -/

theorem Course.even_length_quotePlaces {cs : List Char} {i : Nat} {os : List Occurrence}
    (h : Course cs i os) {o : Occurrence} (ho : o ∈ os) :
    Even (quotePlaces o.start o.lexeme.chars).length := by
  rw [length_quotePlaces]
  exact Lexeme.even_count_quote (h.isWellFormed ho)

/-- **The quotes of a query are those of its lexemes**, one behind the other, and at most one more,
which stands in none. -/
theorem Course.exists_quotePlaces_eq {cs : List Char} {i : Nat} {os : List Occurrence}
    (h : Course cs i os) :
    ∃ left, quotePlaces i (cs.drop i) =
        os.flatMap (fun o ↦ quotePlaces o.start o.lexeme.chars) ++ left ∧
      left.length ≤ 1 ∧ ∀ p ∈ left, ∀ o ∈ os, p < o.start ∨ o.stop ≤ p := by
  induction h with
  | done => exact ⟨[], by simp [quotePlaces], by simp, by simp⟩
  | @pass i os hi htake hcourse ih =>
    obtain ⟨left, hplaces, hleft, hout⟩ := ih
    rw [Position.ofIndex_eq_cons hi] at htake
    rw [List.drop_eq_getElem_cons hi]
    by_cases hc : cs[i] = '"'
    · -- nothing is left to pair this quote with
      rw [hc] at htake ⊢
      have hnone : quotePlaces (i + 1) (cs.drop (i + 1)) = [] :=
        quotePlaces_eq_nil (quote_not_mem_of_take?_eq_none htake)
      rw [hnone, eq_comm, List.append_eq_nil_iff] at hplaces
      rw [quotePlaces_quote, hnone, hplaces.1]
      refine ⟨[i], rfl, Nat.le_refl 1, fun p hp o ho ↦ .inl ?_⟩
      rw [List.mem_singleton.1 hp]
      exact hcourse.le_start ho
    · rw [quotePlaces_of_ne hc]
      exact ⟨left, hplaces, hleft, hout⟩
  | @take i l os htake hcourse ih =>
    obtain ⟨left, hplaces, hleft, hout⟩ := ih
    obtain ⟨-, -, -, hrest⟩ := Lexeme.of_take?_eq_some htake
    have hrest : cs.drop i = l.chars ++ cs.drop (i + l.chars.length) := hrest
    have hbehind : ∀ p ∈ left, i + l.chars.length ≤ p := by
      intro p hp
      have hmem : p ∈ quotePlaces (i + l.chars.length) (cs.drop (i + l.chars.length)) := by
        rw [hplaces]
        exact List.mem_append_right _ hp
      exact (bounds_of_mem_quotePlaces hmem).1
    refine ⟨left, ?_, hleft, fun p hp ↦ List.forall_mem_cons.2 ⟨.inr (hbehind p hp), hout p hp⟩⟩
    rw [hrest, quotePlaces_append, hplaces, List.flatMap_cons, List.append_assoc]

/-- **The pairs of quotes of a query are those of its lexemes.** -/
theorem pairs_quotePlaces (cs : List Char) :
    pairs (quotePlaces 0 cs) =
      (scan cs).flatMap fun o ↦ pairs (quotePlaces o.start o.lexeme.chars) := by
  have hcourse := course_scan cs
  obtain ⟨left, hplaces, hleft, -⟩ := hcourse.exists_quotePlaces_eq
  have heven := fun o ho ↦ hcourse.even_length_quotePlaces (o := o) ho
  rw [List.drop_zero] at hplaces
  rw [hplaces, pairs_append (even_length_flatMap heven), pairs_flatMap heven,
    pairs_of_length_le_one hleft, List.append_nil]

/-- **The text between two quotes of a pair lies in one lexeme.** -/
theorem exists_mem_of_mem_pairs {cs : List Char} {i j : Nat}
    (h : (i, j) ∈ pairs (quotePlaces 0 cs)) :
    ∃ o ∈ scan cs, (o.lexeme.category = .string ∨ o.lexeme.category = .orPair) ∧
      o.start ≤ i ∧ i < j ∧ j < o.stop := by
  rw [pairs_quotePlaces, List.mem_flatMap] at h
  obtain ⟨o, ho, h⟩ := h
  obtain ⟨hi, hj⟩ := mem_of_mem_pairs h
  have hcategory := Lexeme.category_of_quote_mem ((course_scan cs).isWellFormed ho)
    (quote_mem_of_mem_quotePlaces hi)
  exact ⟨o, ho, hcategory, (bounds_of_mem_quotePlaces hi).1,
    rel_of_mem_pairs List.pairwise_idxsOf h, (bounds_of_mem_quotePlaces hj).2⟩

/-- **Of an odd number of quotes the last is in no lexeme.** -/
theorem outside_of_odd {cs : List Char} {p : Nat} (hodd : Odd (quotePlaces 0 cs).length)
    (hp : (quotePlaces 0 cs).getLast? = some p) {o : Occurrence} (ho : o ∈ scan cs) :
    p < o.start ∨ o.stop ≤ p := by
  have hcourse := course_scan cs
  obtain ⟨left, hplaces, hleft, hout⟩ := hcourse.exists_quotePlaces_eq
  have heven := even_length_flatMap fun o ho ↦ hcourse.even_length_quotePlaces (o := o) ho
  rw [List.drop_zero] at hplaces
  rw [hplaces, List.length_append] at hodd
  cases left with
  | nil => exact absurd heven (Nat.not_even_iff_odd.2 hodd)
  | cons a left =>
    obtain rfl : left = [] := List.length_eq_zero_iff.1 (by simpa using hleft)
    rw [hplaces, List.getLast?_concat] at hp
    rw [← Option.some.inj hp]
    exact hout a List.mem_cons_self o ho

/-- **Quotes pair up from left to right**, and a text between two quotes of a pair is never split:
it lies in one lexeme, a phrase or a pair of alternatives.  No lexeme has an odd number of quotes,
and of an odd number of quotes the last is in no lexeme. -/
theorem quotes_pair_up (cs : List Char) :
    (∀ k i j, (quotePlaces 0 cs)[2 * k]? = some i → (quotePlaces 0 cs)[2 * k + 1]? = some j →
      ∃! o, o ∈ scan cs ∧ (o.lexeme.category = .string ∨ o.lexeme.category = .orPair) ∧
        o.start ≤ i ∧ j < o.stop) ∧
    (∀ o ∈ scan cs, Even (o.lexeme.chars.count '"')) ∧
    ∀ p, Odd (quotePlaces 0 cs).length → (quotePlaces 0 cs).getLast? = some p →
      ∀ o ∈ scan cs, p < o.start ∨ o.stop ≤ p := by
  have hcourse := course_scan cs
  refine ⟨fun k i j hi hj ↦ ?_, fun o ho ↦ Lexeme.even_count_quote (hcourse.isWellFormed ho),
    fun p hodd hp o ho ↦ outside_of_odd hodd hp ho⟩
  obtain ⟨o, ho, hcategory, hstart, hij, hstop⟩ :=
    exists_mem_of_mem_pairs (mem_pairs_iff.2 ⟨k, hi, hj⟩)
  refine ⟨o, ⟨ho, hcategory, hstart, hstop⟩, ?_⟩
  rintro o' ⟨ho', -, hstart', hstop'⟩
  exact hcourse.eq_of_mem ho' ho ⟨hstart', hij.trans hstop'⟩ ⟨hstart, hij.trans hstop⟩

end SearchFilter
