import Mathlib.Computability.Language
import SearchFilter.Date.Written
import SearchFilter.Proofs.Position

/-!
# Patterns

A pattern says part by part what may stand at a position in a text.  Often it can be matched there
in more than one way: then one way is preferred, and the others are there to go back to when what
comes next does not fit.

* `Pattern` has the constructors of patterns; `Pattern.tries` lists the positions behind the matches
  of a pattern, in the order in which they are tried.
* `Pattern.Spells` says that a pattern matches the texts of a language, wherever they stand; there
  is one lemma for each way of building patterns.
* `Pattern.head?_tries_append_of_total` and `Pattern.head?_tries_append_of_unique` find the match
  that is preferred.
-/

set_option autoImplicit false

namespace SearchFilter

open Unicode Computability

/-! ## Patterns and their matches -/

/-- What may stand at a position in a text. -/
inductive Pattern where
  /-- Nothing is asked for. -/
  | nothing
  /-- One character of a kind. -/
  | one (p : Char → Bool)
  /-- Of the characters before and behind the position just one belongs to a word. -/
  | border
  /-- One pattern and then another. -/
  | seq (first second : Pattern)
  /-- One of two patterns; the first is preferred. -/
  | either (first second : Pattern)
  /-- A pattern any number of times; more often is preferred. -/
  | many (body : Pattern)

namespace Pattern

instance : Append Pattern := ⟨seq⟩

/-- Whether a position is at an end of a run of word characters. -/
def isBorder (x : Position) : Bool :=
  x.prev.any isWordChar != startsWithWordChar x.rest

/-- The positions that `step` reaches when it is repeated, as long as it gets on.  Those that more
steps lead to come first. -/
def repeated (step : Position → List Position) (x : Position) : List Position :=
  (((step x).filter (·.rest.length < x.rest.length)).attach.flatMap fun y ↦ repeated step y.1) ++
    [x]
termination_by x.rest.length
decreasing_by simpa using (List.mem_filter.1 y.2).2

/-- **The positions behind the matches of a pattern**, in the order in which they are tried. -/
def tries : Pattern → Position → List Position
  | nothing, x => [x]
  | one p, ⟨_, c :: cs⟩ => if p c then [⟨some c, cs⟩] else []
  | one _, ⟨_, []⟩ => []
  | border, x => if isBorder x then [x] else []
  | seq first second, x => (first.tries x).flatMap second.tries
  | either first second, x => first.tries x ++ second.tries x
  | many body, x => repeated body.tries x

/-- Whether a pattern matches behind the first `i` characters of a text. -/
def matchesAt (p : Pattern) (cs : List Char) (i : Nat) : Bool :=
  !(p.tries (.ofIndex cs i)).isEmpty

/-! ## The matches of one part -/

variable {x y : Position} {p q : Pattern}

@[simp]
theorem mem_tries_nothing : y ∈ nothing.tries x ↔ y = x := by
  simp [tries]

theorem mem_tries_one {k : Char → Bool} :
    y ∈ (one k).tries x ↔ ∃ c, k c = true ∧ x.Passes [c] y := by
  obtain ⟨prev, rest⟩ := x
  cases rest with
  | nil => simp [tries, Position.Passes]
  | cons c cs =>
    rw [tries]
    constructor
    · intro hy
      split at hy
      · next hc =>
        rw [List.mem_singleton.1 hy]
        exact ⟨c, hc, rfl, rfl⟩
      · exact absurd hy List.not_mem_nil
    · rintro ⟨d, hd, hpass⟩
      obtain ⟨rfl, hrest⟩ := List.cons.inj hpass.1
      have hy : y = ⟨some c, cs⟩ := by
        rw [hpass.eq_behind, hrest]
        rfl
      rw [if_pos hd, List.mem_singleton, hy]

@[simp]
theorem mem_tries_border : y ∈ border.tries x ↔ isBorder x = true ∧ y = x := by
  simp [tries]

@[simp]
theorem mem_tries_append : y ∈ (p ++ q).tries x ↔ ∃ z ∈ p.tries x, y ∈ q.tries z :=
  List.mem_flatMap

@[simp]
theorem mem_tries_either : y ∈ (either p q).tries x ↔ y ∈ p.tries x ∨ y ∈ q.tries x :=
  List.mem_append

theorem tries_one_append {k : Char → Bool} {prev : Option Char} {c : Char} {cs : List Char} :
    (one k ++ p).tries ⟨prev, c :: cs⟩ = if k c then p.tries ⟨some c, cs⟩ else [] := by
  have happ : (one k ++ p).tries ⟨prev, c :: cs⟩ =
      ((one k).tries ⟨prev, c :: cs⟩).flatMap p.tries := rfl
  rw [happ, tries]
  split
  · rw [List.flatMap_singleton]
  · rfl

/-- What is repeated is tried once more, wherever that gets on, and then not at all. -/
theorem tries_many : (many p).tries x =
    ((p.tries x).filter (·.rest.length < x.rest.length)).flatMap (many p).tries ++ [x] := by
  have hmany : (many p).tries = repeated p.tries := funext fun _ ↦ by rw [tries]
  rw [hmany, repeated]
  simp

/-! ## The texts that a pattern matches -/

/-- Whether a pattern matches the texts of a language, whatever stands around them. -/
def Spells (p : Pattern) (l : Language Char) : Prop :=
  ∀ x y, y ∈ p.tries x ↔ ∃ taken ∈ l, x.Passes taken y

variable {l m : Language Char}

theorem spells_nothing : nothing.Spells 1 := by
  intro x y
  simp [Language.mem_one]

/-- The runs of characters of a kind, of the lengths that are allowed. -/
def runs (k : Char → Bool) (size : Nat → Prop) : Language Char :=
  {w | size w.length ∧ ∀ c ∈ w, k c = true}

theorem mem_runs {k : Char → Bool} {size : Nat → Prop} {w : List Char} :
    w ∈ runs k size ↔ size w.length ∧ ∀ c ∈ w, k c = true := Iff.rfl

/-- Two runs of one kind are one run. -/
theorem mem_runs_mul {k : Char → Bool} {size size' : Nat → Prop} {w : List Char} :
    w ∈ runs k size * runs k size' ↔ w ∈ runs k fun n ↦ ∃ i j, size i ∧ size' j ∧ i + j = n := by
  simp only [Language.mem_mul, mem_runs]
  constructor
  · rintro ⟨run, ⟨hsize, hrun⟩, run', ⟨hsize', hrun'⟩, rfl⟩
    refine ⟨⟨_, _, hsize, hsize', List.length_append.symm⟩, fun c hc ↦ ?_⟩
    exact (List.mem_append.1 hc).elim (hrun c) (hrun' c)
  · rintro ⟨⟨i, j, hsize, hsize', hlen⟩, hw⟩
    refine ⟨w.take i, ⟨?_, fun c hc ↦ hw c (List.mem_of_mem_take hc)⟩,
      w.drop i, ⟨?_, fun c hc ↦ hw c (List.mem_of_mem_drop hc)⟩, List.take_append_drop i w⟩
    · rwa [List.length_take, Nat.min_eq_left (by omega)]
    · rwa [List.length_drop, show w.length - i = j by omega]

theorem spells_one (k : Char → Bool) : (one k).Spells (runs k (· = 1)) := by
  intro x y
  rw [mem_tries_one]
  constructor
  · rintro ⟨c, hc, hpass⟩
    exact ⟨[c], ⟨rfl, List.forall_mem_singleton.2 hc⟩, hpass⟩
  · rintro ⟨w, ⟨hlen, hw⟩, hpass⟩
    obtain ⟨c, rfl⟩ := List.length_eq_one_iff.1 hlen
    exact ⟨c, hw c (List.mem_singleton_self c), hpass⟩

theorem Spells.append (hp : p.Spells l) (hq : q.Spells m) : (p ++ q).Spells (l * m) := by
  intro x y
  simp only [mem_tries_append, hp x, hq _ y, Language.mem_mul]
  constructor
  · rintro ⟨z, ⟨taken, htaken, hz⟩, more, hmore, hy⟩
    exact ⟨_, ⟨taken, htaken, more, hmore, rfl⟩, Position.passes_append.2 ⟨z, hz, hy⟩⟩
  · rintro ⟨_, ⟨taken, htaken, more, hmore, rfl⟩, hy⟩
    obtain ⟨z, hz, hy⟩ := Position.passes_append.1 hy
    exact ⟨z, ⟨taken, htaken, hz⟩, more, hmore, hy⟩

theorem Spells.either (hp : p.Spells l) (hq : q.Spells m) : (p.either q).Spells (l + m) := by
  intro x y
  simp only [mem_tries_either, hp x y, hq x y, Language.mem_add, or_and_right, exists_or]

theorem Spells.many (hp : p.Spells l) : p.many.Spells l∗ := by
  intro x y
  -- each repetition leaves a shorter rest
  induction hn : x.rest.length using Nat.strongRecOn generalizing x with
  | ind n ih =>
    subst hn
    rw [tries_many, List.mem_append, List.mem_flatMap, List.mem_singleton]
    simp only [List.mem_filter, decide_eq_true_eq, hp x, Language.mem_kstar_iff_exists_nonempty]
    constructor
    · rintro (⟨z, ⟨⟨taken, htaken, hz⟩, hlt⟩, hy⟩ | rfl)
      · obtain ⟨more, hmore, hy⟩ := (ih _ hlt z rfl).1 hy
        obtain ⟨parts, rfl, hparts⟩ := Language.mem_kstar_iff_exists_nonempty.1 hmore
        have hne : taken ≠ [] := by
          rintro rfl
          rw [Position.passes_nil.1 hz] at hlt
          exact Nat.lt_irrefl _ hlt
        refine ⟨_, ⟨taken :: parts, rfl, List.forall_mem_cons.2 ⟨⟨htaken, hne⟩, hparts⟩⟩, ?_⟩
        exact Position.passes_append.2 ⟨z, hz, hy⟩
      · exact ⟨[], ⟨[], rfl, by simp⟩, Position.passes_nil.2 rfl⟩
    · rintro ⟨_, ⟨parts, rfl, hparts⟩, hy⟩
      cases parts with
      | nil => exact .inr (Position.passes_nil.1 hy)
      | cons taken parts =>
        obtain ⟨⟨htaken, hne⟩, hparts⟩ := List.forall_mem_cons.1 hparts
        obtain ⟨z, hz, hy⟩ := Position.passes_append.1 hy
        have hlt : z.rest.length < x.rest.length := by
          have := List.length_pos_iff.2 hne
          rw [hz.length]
          omega
        refine .inl ⟨z, ⟨⟨taken, htaken, hz⟩, hlt⟩, (ih _ hlt z rfl).2 ⟨_, ?_, hy⟩⟩
        exact Language.mem_kstar_iff_exists_nonempty.2 ⟨parts, rfl, hparts⟩

theorem Spells.congr (hp : p.Spells l) (h : ∀ w, w ∈ l ↔ w ∈ m) : p.Spells m := by
  intro x y
  rw [hp x y]
  simp only [h]

/-! ## Patterns made of others -/

/-- The characters of a text, one behind the other. -/
def text : List Char → Pattern
  | [] => nothing
  | c :: cs => one (· == c) ++ text cs

/-- A pattern or nothing. -/
def optional (p : Pattern) : Pattern := either p nothing

/-- A pattern once or more often. -/
def oneOrMore (p : Pattern) : Pattern := p ++ many p

/-- A pattern a number of times. -/
def times : Nat → Pattern → Pattern
  | 0, _ => nothing
  | n + 1, p => p ++ times n p

theorem spells_text (cs : List Char) : (text cs).Spells {cs} := by
  induction cs with
  | nil => exact spells_nothing
  | cons c cs ih =>
    refine ((spells_one (· == c)).append ih).congr fun w ↦ ?_
    rw [Language.mem_mul]
    constructor
    · rintro ⟨w, ⟨hlen, hw⟩, _, rfl, rfl⟩
      obtain ⟨d, rfl⟩ := List.length_eq_one_iff.1 hlen
      rw [beq_iff_eq.1 (hw d (List.mem_singleton_self d))]
      rfl
    · rintro rfl
      exact ⟨[c], ⟨rfl, by simp⟩, cs, rfl, rfl⟩

@[simp]
theorem mem_tries_text {cs : List Char} : y ∈ (text cs).tries x ↔ x.Passes cs y := by
  rw [spells_text cs x y]
  exact ⟨fun ⟨_, h, hpass⟩ ↦ h ▸ hpass, fun hpass ↦ ⟨cs, rfl, hpass⟩⟩

@[simp]
theorem mem_tries_optional : y ∈ p.optional.tries x ↔ y ∈ p.tries x ∨ y = x := by
  rw [Pattern.optional, mem_tries_either, mem_tries_nothing]

theorem Spells.optional (hp : p.Spells l) : p.optional.Spells (l + 1) :=
  hp.either spells_nothing

theorem spells_many_one (k : Char → Bool) : (many (one k)).Spells (runs k fun _ ↦ True) := by
  refine (spells_one k).many.congr fun w ↦ ?_
  rw [Language.mem_kstar]
  constructor
  · rintro ⟨parts, rfl, hparts⟩
    refine ⟨trivial, fun c hc ↦ ?_⟩
    obtain ⟨part, hpart, hc⟩ := List.mem_flatten.1 hc
    exact (hparts part hpart).2 c hc
  · rintro ⟨-, hw⟩
    refine ⟨w.map fun c ↦ [c], ?_, fun part hpart ↦ ?_⟩
    · rw [← List.flatMap_def, List.flatMap_singleton']
    · obtain ⟨c, hc, rfl⟩ := List.mem_map.1 hpart
      exact ⟨rfl, by simpa using hw c hc⟩

/-- A run may have the lengths that two runs one behind the other have together. -/
theorem Spells.runs_append {k : Char → Bool} {size size' size'' : Nat → Prop}
    (hp : p.Spells (runs k size)) (hq : q.Spells (runs k size'))
    (h : ∀ n, (∃ i j, size i ∧ size' j ∧ i + j = n) ↔ size'' n) :
    (p ++ q).Spells (runs k size'') := by
  refine (hp.append hq).congr fun w ↦ ?_
  rw [mem_runs_mul, mem_runs, mem_runs, h]

theorem spells_oneOrMore_one (k : Char → Bool) :
    (oneOrMore (one k)).Spells (runs k (0 < ·)) := by
  refine (spells_one k).runs_append (spells_many_one k) fun n ↦ ⟨?_, fun hn ↦ ?_⟩
  · rintro ⟨i, j, rfl, -, rfl⟩
    omega
  · exact ⟨1, n - 1, rfl, trivial, by omega⟩

theorem spells_times_one (k : Char → Bool) (n : Nat) :
    (times n (one k)).Spells (runs k (· = n)) := by
  induction n with
  | zero =>
    refine spells_nothing.congr fun w ↦ ?_
    rw [Language.mem_one, mem_runs, List.length_eq_zero_iff]
    exact ⟨fun h ↦ ⟨h, by simp [h]⟩, And.left⟩
  | succ n ih =>
    refine (spells_one k).runs_append ih fun m ↦ ⟨?_, ?_⟩
    · rintro ⟨i, j, rfl, rfl, rfl⟩
      exact Nat.add_comm 1 j
    · rintro rfl
      exact ⟨1, n, rfl, rfl, Nat.add_comm 1 n⟩

/-! ## The match that is preferred -/

theorem many_tries_ne_nil (p : Pattern) (x : Position) : p.many.tries x ≠ [] := by
  rw [tries_many]
  simp

/-- What always matches never makes one go back. -/
theorem head?_tries_append_of_total (hq : ∀ y, q.tries y ≠ []) :
    ((p ++ q).tries x).head? = (p.tries x).head?.bind fun y ↦ (q.tries y).head? := by
  have happ : (p ++ q).tries x = (p.tries x).flatMap q.tries := rfl
  rw [happ]
  cases p.tries x with
  | nil => rfl
  | cons y ys =>
    rw [List.flatMap_cons, List.head?_append, List.head?_cons, Option.bind_some]
    obtain ⟨z, zs, hz⟩ := List.exists_cons_of_ne_nil (hq y)
    rw [hz, List.head?_cons, Option.some_or]

/-- Where only one match can be gone on with, that one is kept. -/
theorem head?_tries_append_of_unique {z : Position} (hz : z ∈ p.tries x)
    (hunique : ∀ y ∈ p.tries x, q.tries y ≠ [] → y = z) :
    ((p ++ q).tries x).head? = (q.tries z).head? := by
  have happ : (p ++ q).tries x = (p.tries x).flatMap q.tries := rfl
  rw [happ]
  generalize p.tries x = ys at hz hunique
  induction ys with
  | nil => exact absurd hz List.not_mem_nil
  | cons y ys ih =>
    obtain ⟨hy, hys⟩ := List.forall_mem_cons.1 hunique
    rw [List.flatMap_cons, List.head?_append]
    by_cases hnil : q.tries y = []
    · rw [hnil, List.head?_nil, Option.none_or]
      rcases List.mem_cons.1 hz with rfl | hz
      · -- then no match can be gone on with at all
        have hnone : ys.flatMap q.tries = [] := by
          refine List.flatMap_eq_nil_iff.2 fun w hw ↦ ?_
          by_contra hne
          rw [hys w hw hne] at hne
          exact hne hnil
        rw [hnone, hnil]
      · exact ih hz hys
    · obtain rfl := hy hnil
      obtain ⟨w, ws, hw⟩ := List.exists_cons_of_ne_nil hnil
      rw [hw, List.head?_cons, Option.some_or]

/-- A repetition is ended where its body does not match. -/
theorem head?_tries_many (h : ∀ y ∈ p.tries x, y.rest.length < x.rest.length) :
    (p.many.tries x).head? =
      (p.tries x).head?.elim (some x) fun y ↦ (p.many.tries y).head? := by
  rw [tries_many, List.filter_eq_self.2 fun y hy ↦ decide_eq_true (h y hy)]
  cases p.tries x with
  | nil => rfl
  | cons y ys =>
    obtain ⟨z, zs, hz⟩ := List.exists_cons_of_ne_nil (many_tries_ne_nil p y)
    rw [List.flatMap_cons, hz, List.head?_cons, Option.elim_some, hz]
    rfl

/-- A run of characters of a kind is matched as long as it can be. -/
theorem head?_tries_many_one (k : Char → Bool) (x : Position) :
    ((many (one k)).tries x).head? =
      some (x.behind (x.rest.takeWhile k) (x.rest.dropWhile k)) := by
  obtain ⟨prev, rest⟩ := x
  induction rest generalizing prev with
  | nil =>
    rw [tries_many, tries]
    rfl
  | cons c cs ih =>
    rw [tries_many, tries]
    by_cases hc : k c = true
    · rw [if_pos hc, List.filter_cons_of_pos (by simp), List.filter_nil, List.flatMap_singleton,
        List.head?_append, ih, Option.some_or, List.takeWhile_cons_of_pos hc,
        List.dropWhile_cons_of_pos hc]
      simp only [Position.behind, List.getLast?_cons]
      cases (cs.takeWhile k).getLast? <;> rfl
    · rw [if_neg hc, List.takeWhile_cons_of_neg hc, List.dropWhile_cons_of_neg hc]
      rfl

theorem head?_tries_oneOrMore_one (k : Char → Bool) (x : Position) :
    ((oneOrMore (one k)).tries x).head? =
      if x.rest.head?.any k then some (x.behind (x.rest.takeWhile k) (x.rest.dropWhile k))
      else none := by
  rw [oneOrMore, head?_tries_append_of_total (many_tries_ne_nil _)]
  obtain ⟨prev, rest⟩ := x
  cases rest with
  | nil => rfl
  | cons c cs =>
    rw [tries, List.head?_cons, Option.any_some]
    by_cases hc : k c = true
    · rw [if_pos hc, if_pos hc, List.head?_cons, Option.bind_some, head?_tries_many_one,
        List.takeWhile_cons_of_pos hc, List.dropWhile_cons_of_pos hc]
      simp only [Position.behind, List.getLast?_cons]
      cases (cs.takeWhile k).getLast? <;> rfl
    · rw [if_neg hc, if_neg hc]
      rfl

/-- The match that is preferred, where only one is possible or one is sought. -/
theorem head?_tries_eq_map {α : Type} {o : Option α} {f : α → Position}
    (hsome : ∀ y, (p.tries x).head? = some y → ∃ a, o = some a ∧ f a = y)
    (hmem : ∀ a, o = some a → f a ∈ p.tries x) : (p.tries x).head? = o.map f := by
  cases h : (p.tries x).head? with
  | none =>
    have hnone : o = none := by
      refine Option.eq_none_iff_forall_ne_some.2 fun a ha ↦ ?_
      have hfa := hmem a ha
      rw [List.head?_eq_none_iff.1 h] at hfa
      exact List.not_mem_nil hfa
    rw [hnone, Option.map_none]
  | some y =>
    obtain ⟨a, ha, rfl⟩ := hsome y h
    rw [ha, Option.map_some]

end Pattern
end SearchFilter
