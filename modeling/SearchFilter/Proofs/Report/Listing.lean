import SearchFilter.Proofs.Conditions
import SearchFilter.Report

/-!
# The listing is read in one way only

A value may hold anything that a line holds, line feeds and numbers among them, so a listing cannot be
read line by line.  But two spaces in a row and a bracket behind them stand only where a value ends, if
the values have no two spaces in a row themselves, and then every listing is that of one list.

* `Report.toList_line` and `Report.toList_listing_cons`: the characters of a line and of a listing.
* `Report.value_append_injective`: where a value ends.
* `Report.line_append_injective` and `Report.behindLines_injective`: one line, and the lines behind it.
* `Report.listing_is_lossless`: conditions with the same listing are the same.
-/

set_option autoImplicit false

namespace SearchFilter
namespace Report

/-! ## The characters of a listing -/

/-- The characters of lines, each behind a line feed. -/
def behindLines (lines : List String) : List Char :=
  lines.flatMap fun line ↦ '\n' :: line.toList

theorem toList_intercalate_newline (first : String) (lines : List String) :
    ("\n".intercalate (first :: lines)).toList = first.toList ++ behindLines lines := by
  induction lines generalizing first with
  | nil => simp [behindLines]
  | cons second lines ih =>
    rw [String.intercalate_cons_cons, String.toList_append, String.toList_append, ih]
    simp [behindLines]

theorem toList_line (number : Nat) (condition : Condition) :
    (line number condition).toList = (toString number).toList ++ ['.', ' '] ++
      (condition.value.toList ++ ' ' :: ' ' :: '[' :: (condition.operator.name.toList ++ [']'])) := by
  have hline : line number condition = toString number ++ ". " ++ condition.value ++ "  [" ++
      condition.operator.name ++ "]" := rfl
  simp [hline]

theorem toList_listing_cons (condition : Condition) (conditions : List Condition) :
    (listing (condition :: conditions)).toList =
      (line 1 condition).toList ++ behindLines (linesFrom 2 conditions) :=
  toList_intercalate_newline (line 1 condition) (linesFrom 2 conditions)

/-! ## Where the parts of a line end -/

/-- A value without two spaces in a row does not go on where another one ends. -/
theorem eq_nil_of_separator_eq {v t rest rest' : List Char} (hv : ¬[' ', ' '] <:+: v ++ t)
    (h : ' ' :: ' ' :: '[' :: rest = t ++ ' ' :: ' ' :: '[' :: rest') : t = [] := by
  match t, h with
  | [], _ => rfl
  | [_], h => simp at h
  | a :: b :: t, h =>
    -- what goes on starts with both spaces behind the other value
    simp only [List.cons_append, List.cons.injEq] at h
    obtain ⟨rfl, rfl, -⟩ := h
    exact absurd ⟨v, t, by simp⟩ hv

/-- **A value ends at the first two spaces with a bracket behind them.** -/
theorem value_append_injective {v v' rest rest' : List Char} (hv : ¬[' ', ' '] <:+: v)
    (hv' : ¬[' ', ' '] <:+: v')
    (h : v ++ ' ' :: ' ' :: '[' :: rest = v' ++ ' ' :: ' ' :: '[' :: rest') :
    v = v' ∧ rest = rest' := by
  rcases List.append_eq_append_iff.1 h with ⟨t, rfl, ht⟩ | ⟨t, rfl, ht⟩
  · obtain rfl := eq_nil_of_separator_eq hv' ht
    simpa using ht
  · obtain rfl := eq_nil_of_separator_eq hv ht
    simpa [eq_comm] using ht

/-- A name ends at the closing bracket. -/
theorem name_append_injective {op op' : Operator} {rest rest' : List Char}
    (h : op.name.toList ++ ']' :: rest = op'.name.toList ++ ']' :: rest') :
    op = op' ∧ rest = rest' := by
  have hall : ∀ op ∈ Operator.all, op.name.toList.all (· != ']') = true := by decide
  have hname : ∀ op : Operator, ∀ c ∈ op.name.toList, (c != ']') = true :=
    fun op ↦ List.all_eq_true.1 (hall op op.mem_all)
  have htake := congrArg (List.takeWhile (· != ']')) h
  have hdrop := congrArg (List.dropWhile (· != ']')) h
  rw [takeWhile_append_of_stop (hname op) rfl, takeWhile_append_of_stop (hname op') rfl] at htake
  rw [dropWhile_append_of_stop (hname op) rfl, dropWhile_append_of_stop (hname op') rfl] at hdrop
  exact ⟨Operator.name_injective (String.toList_inj.1 htake), (List.cons.inj hdrop).2⟩

/-! ## Lines -/

/-- Whether no two spaces in a row stand in the value of a condition. -/
def IsSpacedOnce (condition : Condition) : Prop :=
  ¬[' ', ' '] <:+: condition.value.toList

/-- **A line tells its condition and where it ends.** -/
theorem line_append_injective {number : Nat} {c c' : Condition} {rest rest' : List Char}
    (hc : IsSpacedOnce c) (hc' : IsSpacedOnce c')
    (h : (line number c).toList ++ rest = (line number c').toList ++ rest') :
    c = c' ∧ rest = rest' := by
  simp only [toList_line, List.append_assoc, List.append_cancel_left_eq, List.cons_append,
    List.nil_append, List.cons.injEq, true_and] at h
  obtain ⟨hvalue, hbehind⟩ := value_append_injective hc hc' h
  obtain ⟨hoperator, hrest⟩ := name_append_injective hbehind
  obtain ⟨value, operator⟩ := c
  obtain ⟨value', operator'⟩ := c'
  obtain rfl : value = value' := String.toList_inj.1 hvalue
  obtain rfl : operator = operator' := hoperator
  exact ⟨rfl, hrest⟩

theorem behindLines_injective {number : Nat} {cs ds : List Condition}
    (hcs : ∀ c ∈ cs, IsSpacedOnce c) (hds : ∀ d ∈ ds, IsSpacedOnce d)
    (h : behindLines (linesFrom number cs) = behindLines (linesFrom number ds)) : cs = ds := by
  induction cs generalizing number ds with
  | nil =>
    cases ds with
    | nil => rfl
    | cons d ds => simp [behindLines, linesFrom] at h
  | cons c cs ih =>
    cases ds with
    | nil => simp [behindLines, linesFrom] at h
    | cons d ds =>
      obtain ⟨hc, hcs'⟩ := List.forall_mem_cons.1 hcs
      obtain ⟨hd, hds'⟩ := List.forall_mem_cons.1 hds
      simp only [linesFrom, behindLines, List.flatMap_cons, List.cons_append, List.cons.injEq,
        true_and] at h
      obtain ⟨rfl, hrest⟩ := line_append_injective hc hd h
      rw [ih hcs' hds' hrest]

/-! ## Listings -/

/-- A listing of conditions is not the text for none. -/
theorem listing_cons_ne_nil (condition : Condition) (conditions : List Condition) :
    listing (condition :: conditions) ≠ listing [] := by
  intro h
  have hhead := congrArg (fun text ↦ text.toList.head?) h
  have hone : (toString 1).toList = ['1'] := rfl
  simp only [toList_listing_cons, toList_line, hone] at hhead
  exact absurd hhead (by simp [listing])

theorem listing_injective {cs ds : List Condition} (hcs : ∀ c ∈ cs, IsSpacedOnce c)
    (hds : ∀ d ∈ ds, IsSpacedOnce d) (h : listing cs = listing ds) : cs = ds := by
  cases cs with
  | nil =>
    cases ds with
    | nil => rfl
    | cons d ds => exact absurd h.symm (listing_cons_ne_nil d ds)
  | cons c cs =>
    cases ds with
    | nil => exact absurd h (listing_cons_ne_nil c cs)
    | cons d ds =>
      obtain ⟨hc, hcs'⟩ := List.forall_mem_cons.1 hcs
      obtain ⟨hd, hds'⟩ := List.forall_mem_cons.1 hds
      have hchars := congrArg String.toList h
      rw [toList_listing_cons, toList_listing_cons] at hchars
      obtain ⟨rfl, hrest⟩ := line_append_injective hc hd hchars
      rw [behindLines_injective hcs' hds' hrest]

/-- The conditions of a query have no two spaces in a row. -/
theorem isSpacedOnce_of_mem_parse {query : Option String} {condition : Condition}
    (h : condition ∈ (Query.parse query).value) : IsSpacedOnce condition := by
  cases query with
  | none => exact absurd h List.not_mem_nil
  | some q =>
    have hall := Query.forall_mem_value_parse (q := q) (p := fun v ↦ ¬[' ', ' '] <:+: v)
    exact hall.2 (fun o _ _ ↦ not_infix_clean o.lexeme.chars) condition h

/-- **The listing loses nothing.**  Two lists of conditions without two spaces in a row in a value have
the same listing only if they are the same; in particular the conditions of two queries. -/
theorem listing_is_lossless :
    (∀ cs ds : List Condition, (∀ c ∈ cs, ¬[' ', ' '] <:+: c.value.toList) →
      (∀ d ∈ ds, ¬[' ', ' '] <:+: d.value.toList) → (listing cs = listing ds ↔ cs = ds)) ∧
    ∀ query query' : Option String,
      listing (Query.parse query).value = listing (Query.parse query').value ↔
        (Query.parse query).value = (Query.parse query').value :=
  ⟨fun _ _ hcs hds ↦ ⟨listing_injective hcs hds, congrArg listing⟩,
    fun _ _ ↦ ⟨listing_injective (fun _ ↦ isSpacedOnce_of_mem_parse)
      fun _ ↦ isSpacedOnce_of_mem_parse, congrArg listing⟩⟩

/-- A value that looks like the end of a line and the start of the next. -/
theorem listing_is_lossless_line_feed :
    (∀ c ∈ [(⟨"a [like]\n2. b", .like⟩ : Condition)], ¬[' ', ' '] <:+: c.value.toList) ∧
      (∀ d ∈ [(⟨"a", .like⟩ : Condition), ⟨"b", .like⟩], ¬[' ', ' '] <:+: d.value.toList) ∧
      listing [⟨"a [like]\n2. b", .like⟩] ≠ listing [⟨"a", .like⟩, ⟨"b", .like⟩] := by
  have hone : ∀ c ∈ [(⟨"a [like]\n2. b", .like⟩ : Condition)], ¬[' ', ' '] <:+: c.value.toList := by
    decide +kernel
  have htwo : ∀ d ∈ [(⟨"a", .like⟩ : Condition), ⟨"b", .like⟩], ¬[' ', ' '] <:+: d.value.toList := by
    decide +kernel
  refine ⟨hone, htwo, fun h ↦ ?_⟩
  exact absurd ((listing_is_lossless.1 _ _ hone htwo).1 h) (by decide)

-- with two spaces in a row a value can hold the whole end of a line
example : listing [⟨"a  [like]\n2. b", .like⟩] = listing [⟨"a", .like⟩, ⟨"b", .like⟩] := by decide +kernel

end Report
end SearchFilter
