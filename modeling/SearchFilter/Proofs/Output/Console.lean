import SearchFilter.Output
import SearchFilter.Proofs.Report.Listing

/-!
# Results on the console

The console shows a result by the lines of its listing.  The listing has a line for each condition, but
it is cut at every line end, and so a value with a line end in it is spread over several records.

* `Text.isLineBreak_eq_false_of_mem_splitLines` and `Text.splitLines_append_newline`: lines hold no line
  ends, and a line feed cuts a text in two.
* `Report.splitLines_listing`: the lines of a listing are those of the texts of its conditions.
* `Report.splitLines_listing_eq_iff`: when these are one for each condition.
* `Outlet.records_showResult`: the records of a result.
* `Outlet.console_shows_lines`: what the console shows of a query, and when that is one record for each
  condition.
-/

set_option autoImplicit false

namespace SearchFilter

open Log

/-! ## Lines of a text -/

namespace Text

theorem isLineBreak_eq_false_of_isDigit {c : Char} (h : c.isDigit = true) :
    isLineBreak c = false := by
  have hrange : 48 ≤ c.toNat ∧ c.toNat ≤ 57 := by
    simpa [Char.isDigit, UInt32.le_iff_toNat_le] using h
  refine Bool.eq_false_iff.2 fun hbreak ↦ ?_
  simp only [isLineBreak, List.contains_cons, List.contains_nil, Bool.or_false, Bool.or_eq_true,
    beq_iff_eq] at hbreak
  omega

theorem splitLines_ne_nil {cs : List Char} (h : cs ≠ []) : splitLines cs ≠ [] := by
  fun_cases splitLines cs with
  | case1 => exact absurd rfl h
  | case2 cs => exact List.cons_ne_nil _ _
  | case3 c cs _ hbreak => exact List.cons_ne_nil _ _
  | case4 c cs _ hbreak => cases splitLines cs <;> simp [extendFirst]

/-- No line holds a line end. -/
theorem isLineBreak_eq_false_of_mem_splitLines {cs piece : List Char} (h : piece ∈ splitLines cs) :
    ∀ c ∈ piece, isLineBreak c = false := by
  fun_induction splitLines cs generalizing piece with
  | case1 => exact absurd h List.not_mem_nil
  | case2 cs ih =>
    rcases List.mem_cons.1 h with rfl | h
    · exact List.forall_mem_nil _
    · exact ih h
  | case3 c cs _ hbreak ih =>
    rcases List.mem_cons.1 h with rfl | h
    · exact List.forall_mem_nil _
    · exact ih h
  | case4 c cs _ hbreak ih =>
    have hc : isLineBreak c = false := Bool.eq_false_iff.2 hbreak
    cases hpieces : splitLines cs with
    | nil =>
      rw [hpieces, extendFirst, List.mem_singleton] at h
      simp [h, hc]
    | cons first pieces =>
      rw [hpieces] at h ih
      rcases List.mem_cons.1 h with rfl | h
      · exact List.forall_mem_cons.2 ⟨hc, ih List.mem_cons_self⟩
      · exact ih (List.mem_cons_of_mem _ h)

/-- **A line feed cuts a text in two**, if the first part does not end in a line end. -/
theorem splitLines_append_newline {cs : List Char} (hne : cs ≠ [])
    (hlast : cs.getLast?.any isLineBreak = false) (ds : List Char) :
    splitLines (cs ++ '\n' :: ds) = splitLines cs ++ splitLines ds := by
  fun_induction splitLines cs with
  | case1 => exact absurd rfl hne
  | case2 cs ih =>
    have hcs : cs ≠ [] := by
      rintro rfl
      exact absurd hlast (by decide)
    rw [List.getLast?_cons_cons, List.getLast?_cons_of_ne_nil hcs] at hlast
    rw [List.cons_append, List.cons_append, splitLines, ih hcs hlast, List.cons_append]
  | case3 c cs hnext hbreak ih =>
    have hcs : cs ≠ [] := by
      rintro rfl
      exact absurd (hlast.symm.trans hbreak) Bool.false_ne_true
    rw [List.getLast?_cons_of_ne_nil hcs] at hlast
    rw [List.cons_append, splitLines, if_pos hbreak, ih hcs hlast, List.cons_append]
    -- a line feed that is the second character of the text was so before
    intro rest hc hrest
    obtain ⟨d, cs, rfl⟩ := List.exists_cons_of_ne_nil hcs
    exact hnext cs hc (by rw [(List.cons.inj hrest).1])
  | case4 c cs hnext hbreak ih =>
    have hc : isLineBreak c = false := Bool.eq_false_iff.2 hbreak
    rw [List.cons_append, splitLines_cons_of_noBreak _ hc]
    by_cases hcs : cs = []
    · subst hcs
      rfl
    · rw [List.getLast?_cons_of_ne_nil hcs] at hlast
      rw [ih hcs hlast]
      obtain ⟨piece, pieces, hpieces⟩ := List.exists_cons_of_ne_nil (splitLines_ne_nil hcs)
      rw [hpieces]
      rfl

end Text

/-! ## Lines of a listing -/

namespace Report

open Text

/-- The texts by which a listing shows conditions: one for each, or one for none. -/
def entryTexts : List Condition → List String
  | [] => ["(no constraints)"]
  | conditions => (conditions.zipIdx 1).map fun (condition, i) ↦
      s!"{i}. {condition.value}  [{condition.operator.name}]"

theorem linesFrom_eq_map (number : Nat) (conditions : List Condition) :
    linesFrom number conditions =
      (conditions.zipIdx number).map fun (condition, i) ↦ line i condition := by
  induction conditions generalizing number with
  | nil => rfl
  | cons condition conditions ih => rw [linesFrom, ih, List.zipIdx_cons, List.map_cons]

theorem entryTexts_cons (condition : Condition) (conditions : List Condition) :
    entryTexts (condition :: conditions) = linesFrom 1 (condition :: conditions) :=
  (linesFrom_eq_map 1 _).symm

theorem getLast?_line (number : Nat) (condition : Condition) :
    (line number condition).toList.getLast? = some ']' := by
  simp [toList_line, List.getLast?_cons]

theorem toList_line_ne_nil (number : Nat) (condition : Condition) :
    (line number condition).toList ≠ [] := by
  simp [toList_line]

theorem splitLines_line_append (number start : Nat) (condition : Condition)
    (conditions : List Condition) :
    splitLines ((line number condition).toList ++ behindLines (linesFrom start conditions)) =
      splitLines (line number condition).toList ++
        (linesFrom start conditions).flatMap fun text ↦ splitLines text.toList := by
  induction conditions generalizing number start condition with
  | nil => simp [linesFrom, behindLines]
  | cons next conditions ih =>
    have hlast : (line number condition).toList.getLast?.any isLineBreak = false := by
      rw [getLast?_line]
      decide
    rw [linesFrom, behindLines, List.flatMap_cons, List.cons_append,
      splitLines_append_newline (toList_line_ne_nil number condition) hlast, ← behindLines, ih,
      List.flatMap_cons]

/-- **The lines of a listing** are those of the texts for its conditions. -/
theorem splitLines_listing (conditions : List Condition) :
    splitLines (listing conditions).toList =
      (entryTexts conditions).flatMap fun text ↦ splitLines text.toList := by
  cases conditions with
  | nil => exact (List.append_nil _).symm
  | cons condition conditions =>
    rw [entryTexts_cons, toList_listing_cons, splitLines_line_append, linesFrom, List.flatMap_cons]

/-- A line is cut where its value is. -/
theorem forall_mem_line_iff (number : Nat) (condition : Condition) :
    (∀ c ∈ (line number condition).toList, isLineBreak c = false) ↔
      ∀ c ∈ condition.value.toList, isLineBreak c = false := by
  have hnumber : ∀ c ∈ (toString number).toList, isLineBreak c = false := by
    rw [Nat.toString_eq_ofList_toDigits, String.toList_ofList]
    exact fun c hc ↦ isLineBreak_eq_false_of_isDigit
      (Nat.isDigit_of_mem_toDigits (by decide) (by decide) hc)
  have hname : ∀ c ∈ condition.operator.name.toList, isLineBreak c = false := by
    have hall : ∀ op ∈ Operator.all, op.name.toList.all (!isLineBreak ·) = true := by decide
    simpa using hall _ condition.operator.mem_all
  constructor
  · intro h c hc
    exact h c (by simp [toList_line, hc])
  · intro h c hc
    simp only [toList_line, List.mem_append, List.mem_cons, List.not_mem_nil, or_false] at hc
    rcases hc with (hc | rfl | rfl) | hc | rfl | rfl | rfl | hc | rfl
    -- number, value and name in turn, with the characters that stand behind each
    · exact hnumber c hc
    · decide
    · decide
    · exact h c hc
    · decide
    · decide
    · decide
    · exact hname c hc
    · decide

theorem forall_mem_linesFrom_iff (number : Nat) (conditions : List Condition) :
    (∀ text ∈ linesFrom number conditions, ∀ c ∈ text.toList, isLineBreak c = false) ↔
      ∀ condition ∈ conditions, ∀ c ∈ condition.value.toList, isLineBreak c = false := by
  induction conditions generalizing number with
  | nil => simp [linesFrom]
  | cons condition conditions ih =>
    rw [linesFrom, List.forall_mem_cons, List.forall_mem_cons, forall_mem_line_iff, ih]

/-- Texts are their own lines when they hold no line ends. -/
theorem flatMap_splitLines_eq_iff {texts : List String} (hne : ∀ text ∈ texts, text.toList ≠ []) :
    (texts.flatMap fun text ↦ splitLines text.toList) = texts.map String.toList ↔
      ∀ text ∈ texts, ∀ c ∈ text.toList, isLineBreak c = false := by
  constructor
  · intro h text htext
    have hmem : text.toList ∈ texts.map String.toList := List.mem_map_of_mem htext
    rw [← h] at hmem
    obtain ⟨other, -, hpiece⟩ := List.mem_flatMap.1 hmem
    exact isLineBreak_eq_false_of_mem_splitLines hpiece
  · intro h
    have hone : ∀ text ∈ texts, splitLines text.toList = [text.toList] := by
      intro text htext
      obtain ⟨c, cs, hcs⟩ := List.exists_cons_of_ne_nil (hne text htext)
      have hfree := h text htext
      rw [hcs] at hfree ⊢
      exact splitLines_of_noBreak hfree
    rw [List.map_eq_flatMap, List.flatMap_def, List.flatMap_def, List.map_congr_left hone]

/-- **A listing has one line for each condition** just when no value holds a line end. -/
theorem splitLines_listing_eq_iff (conditions : List Condition) :
    splitLines (listing conditions).toList = (entryTexts conditions).map String.toList ↔
      ∀ condition ∈ conditions, ∀ c ∈ condition.value.toList, isLineBreak c = false := by
  cases conditions with
  | nil => exact iff_of_true (by decide) (List.forall_mem_nil _)
  | cons condition conditions =>
    have hne : ∀ text ∈ linesFrom 1 (condition :: conditions), text.toList ≠ [] := by
      rw [linesFrom_eq_map, List.forall_mem_map]
      exact fun entry _ ↦ toList_line_ne_nil entry.2 entry.1
    rw [splitLines_listing, entryTexts_cons, flatMap_splitLines_eq_iff hne, forall_mem_linesFrom_iff]

end Report

/-! ## Records of a result -/

/-- The values of the conditions of a query hold a line end when one of its lexemes does. -/
theorem Query.forall_mem_value_isLineBreak_iff (q : String) :
    (∀ condition ∈ (parse (some q)).value,
      ∀ c ∈ condition.value.toList, Text.isLineBreak c = false) ↔
    ∀ o ∈ scan (q.toList.take maxLength), ∀ c ∈ o.lexeme.chars, Text.isLineBreak c = false := by
  have hkept : ∀ cs : List Char, (∀ c ∈ clean cs, Text.isLineBreak c = false) ↔
      ∀ c ∈ cs, Text.isLineBreak c = false := by
    intro cs
    have hfilter := filter_clean (p := Text.isLineBreak) (by decide) (by decide) (by decide) cs
    simp only [← Bool.not_eq_true, ← List.filter_eq_nil_iff, hfilter]
  rw [forall_mem_value_parse (p := fun v ↦ ∀ c ∈ v, Text.isLineBreak c = false)]
  refine forall₂_congr fun o ho ↦ ?_
  rw [← hkept o.lexeme.chars]
  -- a lexeme of which nothing is left has no line end
  exact ⟨fun h c hc ↦ h (List.ne_nil_of_mem hc) c hc, fun h _ ↦ h⟩

namespace Outlet

theorem records_recordLines (lines : List (List Char)) :
    (recordLines lines).records =
      lines.map fun line ↦ ⟨Level.info.rank, "  " ++ String.ofList line⟩ := by
  induction lines with
  | nil => rfl
  | cons line lines ih =>
    rw [recordLines, Logged.records_bind, ih]
    rfl

section

variable [Surroundings]

theorem records_showResult (result : QueryResult) :
    (showResult result).records = ⟨Level.info.rank, "query=" ++ shownQuery result.query⟩ ::
      (Text.splitLines (Report.listing result.conditions).toList).map fun line ↦
        ⟨Level.info.rank, "  " ++ String.ofList line⟩ := by
  rw [showResult, Logged.records_bind, records_recordLines]
  rfl

/-- **What the console shows of a query**: the query, and below it the text of each condition, or the
one for none, with a record for each line of it.  That is one record for each condition exactly when
no line end stands in a lexeme of the query. -/
theorem console_shows_lines (read : Date.Reader) (q : String) :
    let conditions := (Query.parse (some q)).value
    let shown := (write read ⟨some q, conditions⟩ console).records
    (shown = ⟨Level.info.rank, "query=" ++ Text.quoted q⟩ ::
        (Report.entryTexts conditions).flatMap fun text ↦
          (Text.splitLines text.toList).map fun line ↦
            ⟨Level.info.rank, "  " ++ String.ofList line⟩) ∧
    (shown = ⟨Level.info.rank, "query=" ++ Text.quoted q⟩ ::
        (Report.entryTexts conditions).map (fun text ↦ ⟨Level.info.rank, "  " ++ text⟩) ↔
      ∀ o ∈ scan (q.toList.take Query.maxLength), ∀ c ∈ o.lexeme.chars,
        Text.isLineBreak c = false) := by
  intro conditions shown
  have hshown : shown = ⟨Level.info.rank, "query=" ++ Text.quoted q⟩ ::
      (Text.splitLines (Report.listing conditions).toList).map fun line ↦
        ⟨Level.info.rank, "  " ++ String.ofList line⟩ := by
    have hwrite : shown = (showResult ⟨some q, conditions⟩).records ++ [] := rfl
    rw [hwrite, List.append_nil, records_showResult]
    rfl
  have hinj : ∀ line line' : List Char,
      (⟨Level.info.rank, "  " ++ String.ofList line⟩ : Record) =
        ⟨Level.info.rank, "  " ++ String.ofList line'⟩ → line = line' := by
    intro line line' h
    simpa using congrArg (fun record ↦ record.message.toList) h
  refine ⟨?_, ?_⟩
  · rw [hshown, Report.splitLines_listing, List.map_flatMap]
  · have hentries : ((Report.entryTexts conditions).map fun text ↦
        (⟨Level.info.rank, "  " ++ text⟩ : Record)) =
        ((Report.entryTexts conditions).map String.toList).map fun line ↦
          ⟨Level.info.rank, "  " ++ String.ofList line⟩ := by
      simp
    rw [hshown, hentries, List.cons.injEq, and_iff_right rfl, List.map_inj_right hinj,
      Report.splitLines_listing_eq_iff, Query.forall_mem_value_isLineBreak_iff]

end

/-- A line feed between quotes puts one condition into two records. -/
theorem console_cuts_phrase :
    (Query.parse (some "\"a\nb\"")).value = [⟨"a\nb", .like⟩] ∧
      (write .written ⟨some "\"a\nb\"", (Query.parse (some "\"a\nb\"")).value⟩ console).records =
        [⟨Level.info.rank, "query='\"a\\nb\"'"⟩, ⟨Level.info.rank, "  1. a"⟩,
          ⟨Level.info.rank, "  b  [like]"⟩] ∧
      (write .written ⟨some "\"a\nb\"", (Query.parse (some "\"a\nb\"")).value⟩ console).records ≠
        ⟨Level.info.rank, "query=" ++ Text.quoted "\"a\nb\""⟩ ::
          (Report.entryTexts (Query.parse (some "\"a\nb\"")).value).map fun text ↦
            ⟨Level.info.rank, "  " ++ text⟩ := by
  decide +kernel

end Outlet
end SearchFilter
