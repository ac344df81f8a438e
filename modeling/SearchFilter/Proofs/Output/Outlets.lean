import Mathlib.Data.List.Forall2
import SearchFilter.Output
import SearchFilter.Proofs.Disk
import SearchFilter.Proofs.Json.Bytes
import SearchFilter.Proofs.Json.Reading
import SearchFilter.Proofs.Report

/-!
# Where results go

A writer has an outlet for each of the formats that it is made for: the console, or a file.  A file has
the documents of all results so far, and gets all of them at the end of an action, if they have bytes.

* `Outlet.Records` says that a document records a result; `Outlet.records_of_resultDocument_eq_ok`: the
  document of a result does so.
* `Outlet.isEncodable_fileText_iff` and `Outlet.read?_fileText`: when a file of results has bytes, and as
  what it is read.
* `Outlet.finish_file_cases`: what the end of an action leaves of a file.
* `Outlet.ofFormats` are the outlets of a writer for some formats, and `Writer.ofFormats_eq_ok_iff` says
  when there is such a writer; `Outlet.value_writeAll` and `Outlet.finishAll_ofFormats`: what they do.
-/

set_option autoImplicit false

namespace SearchFilter

open Log

/-- The outlets for some formats, with some documents for the file if there is one. -/
def Outlet.ofFormats (formats : List Format) (baseDir : String) (documents : List Json) :
    List Outlet :=
  (if .console ∈ formats then [.console] else []) ++
    if .json ∈ formats then [.file baseDir documents] else []

section

variable [Surroundings] {read : Date.Reader}

/-- Whether all texts of a result can be kept as bytes. -/
def QueryResult.HasBytes (result : QueryResult) : Prop :=
  (∀ query ∈ result.query, Text.isEncodable query = true) ∧
    ∀ condition ∈ result.conditions, Text.isEncodable condition.value = true

instance (result : QueryResult) : Decidable result.HasBytes :=
  inferInstanceAs (Decidable (_ ∧ _))

namespace Outlet

/-! ## Documents of results -/

/-- Whether a document records a result: it has the query as it was, and items from which the
conditions are read again. -/
def Records (document : Json) (result : QueryResult) : Prop :=
  document.get? "query" = some (result.query.elim .null .string) ∧
    ∃ items, document.get? "predicates" = some (.array items) ∧
      Report.load items = .ok result.conditions

theorem value_resultDocument (read : Date.Reader) (result : QueryResult) :
    (resultDocument read result).value = (Report.items read result.conditions).value.map fun its ↦
      .object [("query", result.query.elim .null .string),
        ("predicates", .array (its.map (·.toJson)))] := by
  cases h : result.query <;> simp [resultDocument, h]

theorem exists_items_of_resultDocument_eq_ok {result : QueryResult} {document : Json}
    (h : (resultDocument read result).value = .ok document) :
    ∃ its, (Report.items read result.conditions).value = .ok its ∧
      document = .object [("query", result.query.elim .null .string),
        ("predicates", .array (its.map (·.toJson)))] := by
  rw [value_resultDocument] at h
  cases hits : (Report.items read result.conditions).value with
  | error e =>
    rw [hits] at h
    cases h
  | ok its =>
    rw [hits] at h
    cases h
    exact ⟨its, rfl, rfl⟩

/-- **The document of a result records it.** -/
theorem records_of_resultDocument_eq_ok {result : QueryResult} {document : Json}
    (h : (resultDocument read result).value = .ok document) : Records document result := by
  obtain ⟨its, hits, rfl⟩ := exists_items_of_resultDocument_eq_ok h
  exact ⟨rfl, _, rfl, Report.load_items hits⟩

theorem numberFree_of_resultDocument_eq_ok {result : QueryResult} {document : Json}
    (h : (resultDocument read result).value = .ok document) : document.NumberFree := by
  obtain ⟨its, -, rfl⟩ := exists_items_of_resultDocument_eq_ok h
  refine .object fun field hfield ↦ ?_
  simp only [List.mem_cons, List.not_mem_nil, or_false] at hfield
  rcases hfield with rfl | rfl
  · cases result.query with
    | none => exact .null
    | some query => exact .string query
  · refine .array fun document hdocument ↦ ?_
    obtain ⟨item, -, rfl⟩ := List.mem_map.1 hdocument
    exact item.numberFree_toJson

/-! ## Bytes of documents -/

theorem isEncodable_isoText (date : Date) : Text.isEncodable date.isoText = true := by
  have hascii : ∀ c : Char, c.toNat < 128 → decide (c.toNat < 128) = true := fun c ↦ decide_eq_true
  have hdigits := @Json.all_padded _ hascii 10 (by decide) (by decide)
  refine Text.isEncodable_of_ascii ?_
  rw [Date.isoText, String.toList_ofList, Date.isoChars, List.all_append, List.all_append,
    List.all_cons, List.all_cons, hdigits, hdigits, hdigits]
  rfl

theorem isEncodable_name (operator : Operator) : Text.isEncodable operator.name = true := by
  have hall : ∀ op ∈ Operator.all, op.name.toList.all (·.toNat < 128) = true := by decide
  exact Text.isEncodable_of_ascii (hall operator operator.mem_all)

theorem all_texts_toFields (dates : Report.DateField) :
    (Json.textsOfFields dates.toFields).all Text.isEncodable = true := by
  have hkey : Text.isEncodable "dates" = true := Text.isEncodable_of_ascii (by decide)
  cases dates with
  | absent => rfl
  | unreadable =>
    simp [Report.DateField.toFields, Json.textsOfFields, Json.textsOfField, Json.texts, hkey]
  | days dates =>
    simp [Report.DateField.toFields, Json.textsOfFields, Json.textsOfField, Json.texts, hkey,
      Json.textsOfItems_eq_flatMap, isEncodable_isoText]

/-- Of the texts of an item only the value can have no bytes. -/
theorem all_texts_toJson (item : Report.Item) :
    item.toJson.texts.all Text.isEncodable = Text.isEncodable item.condition.value := by
  have hvalue : Text.isEncodable "value" = true := Text.isEncodable_of_ascii (by decide)
  have hoperator : Text.isEncodable "operator" = true := Text.isEncodable_of_ascii (by decide)
  have hdates := all_texts_toFields item.dates
  simp [Report.Item.toJson, Json.texts, Json.textsOfFields, Json.textsOfField, hvalue, hoperator,
    isEncodable_name, hdates]

/-- **The document of a result has bytes** just when the result has. -/
theorem isEncodable_texts_iff {result : QueryResult} {document : Json}
    (h : (resultDocument read result).value = .ok document) :
    document.texts.all Text.isEncodable = true ↔ result.HasBytes := by
  obtain ⟨its, hits, rfl⟩ := exists_items_of_resultDocument_eq_ok h
  have hquery : Text.isEncodable "query" = true := Text.isEncodable_of_ascii (by decide)
  have hpredicates : Text.isEncodable "predicates" = true := Text.isEncodable_of_ascii (by decide)
  have hconditions := Report.map_condition_of_items_eq_ok hits
  rw [QueryResult.HasBytes, ← hconditions]
  cases result.query <;>
    simp [Json.texts, Json.textsOfFields, Json.textsOfField, Json.textsOfItems_eq_flatMap, hquery,
      hpredicates, all_texts_toJson]

/-! ## Files of results -/

/-- The text of a file of results. -/
def fileText (documents : List Json) : String :=
  (Json.array documents).render

/-- Whether documents are those of results, in their order. -/
def AreDocuments (read : Date.Reader) : List Json → List QueryResult → Prop :=
  List.Forall₂ fun document result ↦ (resultDocument read result).value = .ok document

variable {documents : List Json} {results : List QueryResult}

/-- **A file of results has bytes** just when all of them have. -/
theorem isEncodable_fileText_iff (h : AreDocuments read documents results) :
    Text.isEncodable (fileText documents) = true ↔ ∀ result ∈ results, result.HasBytes := by
  rw [fileText, Json.isEncodable_render, Json.texts, Json.textsOfItems_eq_flatMap, List.all_flatMap]
  induction h with
  | nil => simp
  | cons hdocument _ ih =>
    rw [List.all_cons, Bool.and_eq_true, ih, isEncodable_texts_iff hdocument, List.forall_mem_cons]

/-- **A file of results is read** as their documents. -/
theorem read?_fileText (h : AreDocuments read documents results) :
    Json.read? (fileText documents) = some (.array documents) := by
  refine Json.read?_render (.array ?_)
  induction h with
  | nil => exact List.forall_mem_nil _
  | cons hdocument _ ih =>
    exact List.forall_mem_cons.2 ⟨numberFree_of_resultDocument_eq_ok hdocument, ih⟩

/-! ## The end of an action -/

/-- The file of the results of an action, opened anew; its directories are made. -/
def openResults (moment : Moment) (baseDir action : String) : Disk.Action Place := do
  Disk.makeDirs ((Path.ofString baseDir).child "json")
  Disk.openNew (resultPath moment baseDir action)

/-- The record that a file of results was written. -/
def savedRecord (moment : Moment) (baseDir action : String) : Record :=
  ⟨Level.info.rank, "JSON saved to " ++ (resultPath moment baseDir action).toString⟩

variable {moment : Moment} {baseDir action : String} {disk left : Disk}

/-- The end of an action, from the opening of its file on. -/
theorem run_finish_file (moment : Moment) (baseDir action : String) (documents : List Json)
    (disk : Disk) :
    (finish moment action (.file baseDir documents)).run.run disk =
      match (openResults moment baseDir action).run.run disk with
      | (.error e, left) => (.error e, left)
      | (.ok there, left) =>
        match Text.encodeFault? (fileText documents) with
        | some fault => (.error ⟨.unencodable fault, resultPath moment baseDir action⟩, left)
        | none => (.ok ⟨(), [savedRecord moment baseDir action]⟩,
            left.put there (.file (fileText documents))) := by
  simp only [finish, openResults, Disk.run_bind, Disk.run_writeText]
  rcases (Disk.makeDirs _).run.run disk with ⟨e | _, middle⟩
  · rfl
  · dsimp only
    rcases (Disk.openNew (resultPath moment baseDir action)).run.run middle with ⟨e | there, left⟩
    · rfl
    · dsimp only [fileText]
      cases Text.encodeFault? (Json.array documents).render <;> rfl

theorem openResults_eq_ok {there : Place}
    (h : (openResults moment baseDir action).run.run disk = (.ok there, left)) :
    left.locate (resultPath moment baseDir action) = .ok there ∧
      left.nodeAt there = some (.file "") ∧ disk.KeepsAllBut [there] left := by
  obtain ⟨_, middle, hmake, hopen⟩ := Disk.run_bind_eq_ok h
  have hdirs := Disk.keepsAllBut_makeDirs ((Path.ofString baseDir).child "json") disk
  rw [hmake] at hdirs
  obtain ⟨hlocate, hnode, hkeeps⟩ := Disk.openNew_eq_ok hopen
  exact ⟨hlocate, hnode, (hdirs.mono (List.nil_subset _)).trans hkeeps⟩

/-- A file of results that cannot be opened is not made, but directories can be. -/
theorem openResults_eq_error {e : Disk.Error}
    (h : (openResults moment baseDir action).run.run disk = (.error e, left)) :
    disk.KeepsAllBut [] left := by
  have hdirs := Disk.keepsAllBut_makeDirs ((Path.ofString baseDir).child "json") disk
  rcases Disk.run_bind_eq_error h with hmake | ⟨_, middle, hmake, hopen⟩ <;> rw [hmake] at hdirs
  · exact hdirs
  · rw [Disk.openFile_eq_error hopen]
    exact hdirs

/-- **What the end of an action leaves of a file.**  If it cannot be opened, no file has changed.
Else the path of the results leads to it, nothing besides has changed, and it holds the documents; but
if they have no bytes, it is empty. -/
theorem finish_file_cases (moment : Moment) (baseDir action : String) (documents : List Json)
    (disk : Disk) :
    let opened := ((openResults moment baseDir action).run.run disk).1
    let path := resultPath moment baseDir action
    let text := fileText documents
    let ended := (finish moment action (.file baseDir documents)).run.run disk
    (∃ e left, opened = .error e ∧ ended = (.error e, left) ∧ disk.KeepsAllBut [] left) ∨
    (∃ there left, opened = .ok there ∧ Text.isEncodable text = true ∧
      ended = (.ok ⟨(), [savedRecord moment baseDir action]⟩, left) ∧ left.locate path = .ok there ∧
      left.nodeAt there = some (.file text) ∧ disk.KeepsAllBut [there] left) ∨
    ∃ there left fault, opened = .ok there ∧ Text.isEncodable text = false ∧
      ended = (.error ⟨.unencodable fault, path⟩, left) ∧ left.locate path = .ok there ∧
      left.nodeAt there = some (.file "") ∧ disk.KeepsAllBut [there] left := by
  intro opened path text ended
  have hrun : ended = _ := run_finish_file moment baseDir action documents disk
  rcases hopen : (openResults moment baseDir action).run.run disk with ⟨e | there, middle⟩ <;>
    rw [hopen] at hrun
  · exact .inl ⟨e, middle, congrArg Prod.fst hopen, hrun, openResults_eq_error hopen⟩
  · obtain ⟨hlocate, hnode, hkeeps⟩ := openResults_eq_ok hopen
    have hopened : opened = .ok there := congrArg Prod.fst hopen
    cases hfault : Text.encodeFault? (fileText documents) with
    | none =>
      simp only [hfault] at hrun
      have hdir : middle.nodeAt there ≠ some .directory := by simp [hnode]
      have hwrite := Disk.KeepsAllBut.put_file hdir text
      exact .inr (.inl ⟨there, _, hopened, Text.encodeFault?_eq_none_iff.1 hfault, hrun,
        hwrite.locate_eq_ok hlocate,
        Disk.nodeAt_put_self (Disk.ne_nil_of_nodeAt_ne_directory hdir) middle _, hkeeps.trans hwrite⟩)
    | some fault =>
      simp only [hfault] at hrun
      have hbytes : Text.isEncodable text = false := by
        rw [← Bool.not_eq_true, ← Text.encodeFault?_eq_none_iff, hfault]
        exact Option.some_ne_none fault
      exact .inr (.inr ⟨there, middle, fault, hopened, hbytes, hrun, hlocate, hnode, hkeeps⟩)

/-! ## Outlets of writers -/

/-- **One result** becomes a document for the file, if there is one, unless the reader fails. -/
theorem value_writeAll (read : Date.Reader) (result : QueryResult) (formats : List Format)
    (baseDir : String) (documents : List Json) :
    (writeAll read result (ofFormats formats baseDir documents)).value =
      (if .json ∈ formats then (resultDocument read result).value.map fun _ ↦ () else .ok (),
        ofFormats formats baseDir
          (documents ++ (resultDocument read result).value.toOption.toList)) := by
  rw [ofFormats, ofFormats]
  cases hdocument : (resultDocument read result).value <;> split_ifs <;>
    simp [writeAll, write, hdocument, Except.map, Except.toOption]

/-- The end of an action is that for the file, if there is one. -/
theorem finishAll_ofFormats (moment : Moment) (action : String) (disk : Disk) (formats : List Format)
    (baseDir : String) (documents : List Json) :
    finishAll moment action disk (ofFormats formats baseDir documents) =
      if .json ∈ formats then
        match (finish moment action (file baseDir documents)).run.run disk with
        | (.error e, left) => ⟨(.error e, left), []⟩
        | (.ok finished, left) => ⟨(.ok (), left), finished.records⟩
      else ⟨(.ok (), disk), []⟩ := by
  have hconsole : ∀ outlets, finishAll moment action disk (console :: outlets) =
      finishAll moment action disk outlets := fun _ ↦ rfl
  have hfile : finishAll moment action disk [file baseDir documents] =
      match (finish moment action (file baseDir documents)).run.run disk with
      | (.error e, left) => ⟨(.error e, left), []⟩
      | (.ok finished, left) => ⟨(.ok (), left), finished.records⟩ := by
    rw [finishAll]
    rcases (finish moment action (file baseDir documents)).run.run disk with ⟨e | finished, left⟩
    · rfl
    · simp only [finishAll, bind, pure, List.append_nil]
  rw [ofFormats]
  split_ifs
  · rw [List.singleton_append, hconsole, hfile]
  · rw [List.append_nil, hconsole]
    rfl
  · rw [List.nil_append, hfile]
  · rfl

end Outlet

end

/-! ## Writers for formats -/

namespace Outlet

/-- Whether an outlet is the console. -/
def isConsole : Outlet → Bool
  | console => true
  | file _ _ => false

/-- Whether an outlet is a file below a directory. -/
def isFileIn (dir : String) : Outlet → Bool
  | console => false
  | file baseDir _ => decide (baseDir = dir)

theorem countP_isConsole_ofFormats (formats : List Format) (baseDir : String) (documents : List Json) :
    (ofFormats formats baseDir documents).countP isConsole = if .console ∈ formats then 1 else 0 := by
  rw [ofFormats]
  split_ifs <;> rfl

theorem countP_isFileIn_ofFormats (formats : List Format) (baseDir : String) (documents : List Json)
    (dir : String) :
    (ofFormats formats baseDir documents).countP (isFileIn dir) =
      if .json ∈ formats ∧ baseDir = dir then 1 else 0 := by
  have hconsole : (if .console ∈ formats then [console] else []).countP (isFileIn dir) = 0 := by
    split_ifs <;> rfl
  rw [ofFormats, List.countP_append, hconsole, Nat.zero_add]
  by_cases hjson : .json ∈ formats <;> by_cases hdir : baseDir = dir <;> simp [hjson, hdir, isFileIn]

end Outlet

namespace Writer

variable {formats : List Format} {baseDir : String} {writer : Writer}

theorem ofFormats_eq (formats : List Format) (baseDir : String) :
    ofFormats formats baseDir =
      if formats = [] then .error .noFormats else .ok ⟨Outlet.ofFormats formats baseDir []⟩ := by
  simp only [ofFormats, Outlet.ofFormats, List.contains_iff_mem]
  cases formats with
  | nil => rfl
  | cons format formats =>
    rw [if_neg (List.cons_ne_nil _ _)]
    cases format with
    | console => simp
    | json => by_cases hconsole : .console ∈ formats <;> simp [hconsole]

/-- **There is a writer for formats** if there are any, with the outlets for these and no results. -/
theorem ofFormats_eq_ok_iff :
    ofFormats formats baseDir = .ok writer ↔
      formats ≠ [] ∧ writer = ⟨Outlet.ofFormats formats baseDir []⟩ := by
  rw [ofFormats_eq]
  split_ifs with hnone
  · simp [hnone]
  · rw [Except.ok.injEq, and_iff_right hnone, eq_comm]

theorem ofFormats_eq_ok_of_ne_nil (h : formats ≠ []) (baseDir : String) :
    ofFormats formats baseDir = .ok ⟨Outlet.ofFormats formats baseDir []⟩ :=
  ofFormats_eq_ok_iff.2 ⟨h, rfl⟩

/-- Only where there is no format there is no writer. -/
theorem ofFormats_eq_error {e : Error} (h : ofFormats formats baseDir = .error e) : formats = [] := by
  rw [ofFormats_eq] at h
  split_ifs at h with hnone
  exact hnone

end Writer
end SearchFilter
