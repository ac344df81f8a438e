import SearchFilter.Proofs.Log.Files
import SearchFilter.Proofs.Output.Outlets
import SearchFilter.Proofs.Query.Text
import SearchFilter.Proofs.Report.Items

/-!
# Results on the disk

A writer is given results and writes them to a file whenever an action ends.  It forgets none of
them, so each file holds all results up to then; but a result of which some text has no bytes keeps all
of them from the file, which is left empty.

* `Writer.State.run` takes a writer and a disk through steps, each a result or the end of an action.
* `Writer.State.writer_run`: the outlets have the documents of all results, in their order.
* `results_are_kept`: what each step of a run leaves on the disk.
* `readQueriesFrom_cases`: queries that are read one after another, with their documents.
-/

set_option autoImplicit false

namespace SearchFilter

open Log

namespace Writer

/-! ## Steps -/

/-- What is asked of a writer, and when. -/
inductive Step where
  /-- A result comes. -/
  | write (moment : Moment) (result : QueryResult)
  /-- An action ends.  There can be results after it, for another end. -/
  | finish (moment : Moment) (action : String)

/-- Why a step fails. -/
inductive Failure where
  /-- The reader of dates has failed. -/
  | dates (error : Date.Error)
  /-- The results could not be written. -/
  | disk (error : Disk.Error)
deriving DecidableEq

/-- A writer and the disk. -/
structure State where
  writer : Writer
  disk : Disk

/-- The result that comes in a step, if one does. -/
def Step.result? : Step → Option QueryResult
  | write _ result => some result
  | finish _ _ => none

section

variable [Surroundings] {read : Date.Reader} {logger : Logger} {formats : List Format}
  {baseDir : String} {documents : List Json} {state : State}

/-- Each result has a document, by a reader without faults of its own. -/
theorem exists_resultDocument_eq_ok (hrefuses : read.Refuses) (result : QueryResult) :
    ∃ document, (Outlet.resultDocument read result).value = .ok document := by
  obtain ⟨its, hits⟩ := Report.exists_items_eq_ok hrefuses result.conditions
  exact ⟨_, by rw [Outlet.value_resultDocument, hits]; rfl⟩

/-- The document of the result that comes in a step, if it has one. -/
def Step.document? (read : Date.Reader) (s : Step) : Option Json :=
  s.result?.bind fun result ↦ (Outlet.resultDocument read result).value.toOption

/-- The result that is taken in a step: one that comes and has a document. -/
def Step.taken? (read : Date.Reader) (s : Step) : Option QueryResult :=
  s.result?.filter fun result ↦ (Outlet.resultDocument read result).value.isOk

/-- The results that are taken are those that come, by a reader without faults of its own. -/
theorem Step.taken?_eq_result? (hrefuses : read.Refuses) (s : Step) :
    s.taken? read = s.result? := by
  cases s with
  | finish moment action => rfl
  | write moment result =>
    obtain ⟨document, hdocument⟩ := exists_resultDocument_eq_ok hrefuses result
    simp [taken?, result?, hdocument, Except.isOk, Except.toBool]

theorem Step.areDocuments (s : Step) :
    Outlet.AreDocuments read (s.document? read).toList (s.taken? read).toList := by
  cases s with
  | finish moment action => exact .nil
  | write moment result =>
    rw [document?, taken?, result?, Option.bind_some, Option.filter_some]
    cases hdocument : (Outlet.resultDocument read result).value with
    | error e => exact .nil
    | ok document => exact .cons hdocument .nil

/-- The documents of steps are those of the results that are taken. -/
theorem areDocuments_steps (read : Date.Reader) (steps : List Step) :
    Outlet.AreDocuments read (steps.filterMap (Step.document? read))
      (steps.filterMap (Step.taken? read)) := by
  induction steps with
  | nil => exact .nil
  | cons s steps ih =>
    have hcons : ∀ {α : Type} (f : Step → Option α),
        (s :: steps).filterMap f = (f s).toList ++ steps.filterMap f := fun f ↦ by
      cases h : f s <;> simp [h]
    rw [hcons, hcons]
    exact List.rel_append s.areDocuments ih

namespace State

/-- One step: whether it fails, and what it leaves.  The records made in it are sent to a logger. -/
def step (read : Date.Reader) (logger : Logger) (state : State) : Step → Except Failure Unit × State
  | .write moment result =>
    let logged := state.writer.write read result
    (logged.value.1.mapError .dates,
      ⟨logged.value.2, (logger.emit moment state.disk logged.records).1⟩)
  | .finish moment action =>
    let logged := state.writer.finish moment action state.disk
    (logged.value.1.mapError .disk,
      ⟨state.writer, (logger.emit moment logged.value.2 logged.records).1⟩)

/-- Steps, one after another; those that fail do not keep others from being taken. -/
def run (read : Date.Reader) (logger : Logger) (state : State) (steps : List Step) : State :=
  steps.foldl (fun state s ↦ (state.step read logger s).2) state

/-- A step adds its document to those of the file, if there is one. -/
theorem writer_step (h : state.writer = ⟨Outlet.ofFormats formats baseDir documents⟩) (s : Step) :
    (state.step read logger s).2.writer =
      ⟨Outlet.ofFormats formats baseDir (documents ++ (s.document? read).toList)⟩ := by
  cases s with
  | write moment result =>
    simp [step, Writer.write, h, Outlet.value_writeAll, Step.document?, Step.result?]
  | finish moment action => simp [step, h, Step.document?, Step.result?]

/-- **The file has the documents of all steps**, in their order, and the outlets are otherwise as they
were. -/
theorem writer_run (h : state.writer = ⟨Outlet.ofFormats formats baseDir documents⟩)
    (steps : List Step) :
    (state.run read logger steps).writer =
      ⟨Outlet.ofFormats formats baseDir (documents ++ steps.filterMap (Step.document? read))⟩ := by
  induction steps generalizing state documents with
  | nil => simpa [run] using h
  | cons s steps ih =>
    rw [run, List.foldl_cons, ← run, ih (writer_step h s), List.append_assoc]
    cases hdocument : s.document? read <;> simp [hdocument]

/-- A result changes no file, and it is taken unless the reader fails on its way to a file. -/
theorem step_write (h : state.writer = ⟨Outlet.ofFormats formats baseDir documents⟩) (moment : Moment)
    (result : QueryResult) :
    ((.json ∈ formats → (Step.write moment result).taken? read = some result) →
      (state.step read logger (.write moment result)).1 = .ok ()) ∧
    state.disk.KeepsAllBut logger.places (state.step read logger (.write moment result)).2.disk := by
  refine ⟨fun htaken ↦ ?_, logger.keepsAllBut_emit moment state.disk _⟩
  simp only [step, Writer.write, h, Outlet.value_writeAll, Logged.value_bind, Logged.value_pure]
  split_ifs with hjson
  · have htaken := htaken hjson
    rw [Step.taken?, Step.result?, Option.filter_some] at htaken
    cases hdocument : (Outlet.resultDocument read result).value with
    | error e => simp [hdocument, Except.isOk, Except.toBool] at htaken
    | ok document => rfl
  · rfl

/-- Without a file the end of an action only makes no records. -/
theorem step_finish_of_json_notMem (h : state.writer = ⟨Outlet.ofFormats formats baseDir documents⟩)
    (hjson : .json ∉ formats) (moment : Moment) (action : String) :
    state.step read logger (.finish moment action) = (.ok (), state) := by
  simp only [step, finish, h, Outlet.finishAll_ofFormats, if_neg hjson, Logger.emit, Except.mapError]
  rw [← h]

/-- **What the end of an action leaves** where results go to a file. -/
theorem step_finish_cases (read : Date.Reader) (logger : Logger)
    (h : state.writer = ⟨Outlet.ofFormats formats baseDir documents⟩)
    (hjson : .json ∈ formats) (moment : Moment) (action : String) :
    let next := (state.step read logger (.finish moment action)).2.disk
    let done := (state.step read logger (.finish moment action)).1
    let opened := ((Outlet.openResults moment baseDir action).run.run state.disk).1
    let path := Outlet.resultPath moment baseDir action
    (∃ e, opened = .error e ∧ done = .error (.disk e) ∧ state.disk.KeepsAllBut logger.places next) ∨
    ∃ there, opened = .ok there ∧ next.locate path = .ok there ∧
      state.disk.KeepsAllBut (there :: logger.places) next ∧
      if Text.isEncodable (Outlet.fileText documents) then
        done = .ok () ∧ (there ∉ logger.places →
          next.nodeAt there = some (.file (Outlet.fileText documents)))
      else (∃ fault, done = .error (.disk ⟨.unencodable fault, path⟩)) ∧
        (there ∉ logger.places → next.nodeAt there = some (.file "")) := by
  have hfinish : state.writer.finish moment action state.disk = _ :=
    (congrArg (fun writer : Writer ↦ writer.finish moment action state.disk) h).trans
      ((Outlet.finishAll_ofFormats moment action state.disk formats baseDir documents).trans
        (if_pos hjson))
  simp only [step]
  rcases Outlet.finish_file_cases moment baseDir action documents state.disk with
    ⟨e, left, hopened, hended, hkeeps⟩ | ⟨there, left, hopened, hbytes, hended, hlocate, hnode, hkeeps⟩ |
    ⟨there, left, fault, hopened, hbytes, hended, hlocate, hnode, hkeeps⟩ <;>
    simp only [hended] at hfinish <;> rw [hfinish]
  · exact .inl ⟨e, hopened, rfl, (hkeeps.mono (List.nil_subset _)).trans (logger.keepsAllBut_emit ..)⟩
  all_goals
    have hemit := logger.keepsAllBut_emit moment left
    refine .inr ⟨there, hopened, (hemit _).locate_eq_ok hlocate,
      (hkeeps.mono (List.cons_subset_cons _ (List.nil_subset _))).trans
        ((hemit _).mono (List.subset_cons_self _ _)), ?_⟩
  · rw [if_pos hbytes]
    exact ⟨rfl, fun hthere ↦ ((hemit _).file there hthere _).2 hnode⟩
  · rw [if_neg (by rw [hbytes]; exact Bool.false_ne_true)]
    exact ⟨⟨fault, rfl⟩, fun hthere ↦ ((hemit _).file there hthere _).2 hnode⟩

end State

end

end Writer

section

variable [Surroundings]

/-! ## Running queries -/

/-- The result of a query. -/
def QueryResult.ofQuery (query : Option String) : QueryResult :=
  ⟨query, (Query.parse query).value⟩

/-- **The result of a query has bytes** just when the query has: its values are made of characters of
the query. -/
theorem QueryResult.hasBytes_ofQuery_iff (query : String) :
    (ofQuery (some query)).HasBytes ↔ Text.isEncodable query = true := by
  refine ⟨fun h ↦ h.1 query rfl, fun h ↦ ⟨fun _ hsome ↦ Option.some.inj hsome ▸ h,
    fun condition hcondition ↦ ?_⟩⟩
  have hvalue : condition.value.toList ∈ Query.values query :=
    List.mem_map_of_mem (f := fun c : Condition ↦ c.value.toList) hcondition
  rw [Text.isEncodable, List.all_eq_true] at h ⊢
  exact fun c hc ↦ h c (List.mem_of_mem_take
    ((Query.flatten_values_sublist query).subset (List.mem_flatten_of_mem hvalue hc)))

theorem value_readQueriesFrom_cons (read : Date.Reader) (writer : Writer) (number total : Nat)
    (query : Option String) (queries : List (Option String)) :
    (readQueriesFrom read writer number total (query :: queries)).value =
      match (writer.write read (.ofQuery query)).value with
      | (.error e, writer) => (.error e, writer)
      | (.ok (), writer) =>
        let rest := (readQueriesFrom read writer (number + 1) total queries).value
        (rest.1.map (.ofQuery query :: ·), rest.2) := by
  rw [readQueriesFrom]
  split_ifs <;> simp only [Logged.value_bind, QueryResult.ofQuery] <;>
    rcases (writer.write read ⟨query, (Query.parse query).value⟩).value with ⟨_ | _, _⟩ <;> rfl

/-- **Queries have their results**, and the file has a document for each; but the reader of dates can
fail, if there is a file. -/
theorem readQueriesFrom_cases (read : Date.Reader) (formats : List Format) (baseDir : String)
    (documents : List Json) (number total : Nat) (queries : List (Option String)) :
    let run :=
      (readQueriesFrom read ⟨Outlet.ofFormats formats baseDir documents⟩ number total queries).value
    (∃ more, run = (.ok (queries.map .ofQuery),
        ⟨Outlet.ofFormats formats baseDir (documents ++ more)⟩) ∧
      (.json ∈ formats → Outlet.AreDocuments read more (queries.map .ofQuery))) ∨
    .json ∈ formats ∧ ∃ e, run.1 = .error e ∧
      ∃ query ∈ queries, (Outlet.resultDocument read (.ofQuery query)).value = .error e := by
  induction queries generalizing documents number with
  | nil => exact .inl ⟨[], by simp [readQueriesFrom], fun _ ↦ .nil⟩
  | cons query queries ih =>
    have hwrite : (Writer.write read ⟨Outlet.ofFormats formats baseDir documents⟩
        (.ofQuery query)).value = _ := congrArg (fun written ↦ (written.1, (⟨written.2⟩ : Writer)))
      (Outlet.value_writeAll read (.ofQuery query) formats baseDir documents)
    rw [value_readQueriesFrom_cons, hwrite]
    cases hdocument : (Outlet.resultDocument read (.ofQuery query)).value with
    | error e =>
      by_cases hjson : .json ∈ formats
      · rw [if_pos hjson]
        exact .inr ⟨hjson, e, rfl, query, List.mem_cons_self, hdocument⟩
      · rw [if_neg hjson]
        dsimp only
        rcases ih (documents ++ (Except.error e : Except Date.Error Json).toOption.toList)
          (number + 1) with ⟨more, hrun, -⟩ | ⟨hjson', -⟩
        · rw [hrun, List.append_assoc]
          exact .inl ⟨_, rfl, fun hjson' ↦ absurd hjson' hjson⟩
        · exact absurd hjson' hjson
    | ok document =>
      have hdone : (if .json ∈ formats then (Except.ok document).map fun _ ↦ () else .ok () :
          Except Date.Error Unit) = .ok () := ite_self _
      rw [hdone]
      dsimp only
      rcases ih (documents ++ [document]) (number + 1) with
        ⟨more, hrun, hmore⟩ | ⟨hjson, e, hrun, other, hother, hfail⟩
      · refine .inl ⟨document :: more, ?_, fun hjson ↦ .cons hdocument (hmore hjson)⟩
        rw [Except.toOption, Option.toList_some, hrun, List.append_assoc]
        rfl
      · refine .inr ⟨hjson, e, ?_, other, List.mem_cons_of_mem _ hother, hfail⟩
        rw [Except.toOption, Option.toList_some, hrun]
        rfl

/-! ## Results in files -/

/-- **A writer loses no result and repeats none**, as long as all texts have bytes.  Take one for some
formats through a run of steps, of which some can fail.  A result that comes then changes no file, and
is taken unless the reader of dates fails on its way to a file.  The end of an action opens the file
of its results, if results go to a file; if not, it changes none.  If the file cannot be opened, none
has changed.  If it can, its path leads to it and no other file has changed: it is read as records of
all results taken in the run, in their order and once each, but it is empty if some text of them has
no bytes.  The run files of the logger are aside here; one that was never set up has none.  A reader
without faults of its own takes all results. -/
theorem results_are_kept {read : Date.Reader} {logger : Logger} {formats : List Format}
    {baseDir : String} {writer : Writer} (hwriter : Writer.ofFormats formats baseDir = .ok writer)
    (disk : Disk) (steps : List Writer.Step) :
    let state := Writer.State.run read logger ⟨writer, disk⟩ steps
    let taken := steps.filterMap (Writer.Step.taken? read)
    (∀ moment result,
      let next := state.step read logger (.write moment result)
      ((.json ∈ formats → (Writer.Step.write moment result).taken? read = some result) →
        next.1 = .ok ()) ∧
      state.disk.KeepsAllBut logger.places next.2.disk) ∧
    (∀ moment action,
      let next := state.step read logger (.finish moment action)
      if .json ∈ formats then
        let path := Outlet.resultPath moment baseDir action
        match ((Outlet.openResults moment baseDir action).run.run state.disk).1 with
        | .error e => next.1 = .error (.disk e) ∧ state.disk.KeepsAllBut logger.places next.2.disk
        | .ok there =>
          next.2.disk.locate path = .ok there ∧
          state.disk.KeepsAllBut (there :: logger.places) next.2.disk ∧
          ((∀ result ∈ taken, result.HasBytes) → next.1 = .ok () ∧
            (there ∉ logger.places → ∃ text documents,
              next.2.disk.nodeAt there = some (.file (.text text)) ∧
              Json.read? text = some (.array documents) ∧
              List.Forall₂ Outlet.Records documents taken)) ∧
          ((∃ result ∈ taken, ¬result.HasBytes) →
            (∃ fault, next.1 = .error (.disk ⟨.unencodable fault, path⟩)) ∧
            (there ∉ logger.places → next.2.disk.nodeAt there = some (.file "")))
      else next.1 = .ok () ∧ state.disk.KeepsAllBut logger.places next.2.disk) ∧
    (read.Refuses → taken = steps.filterMap Writer.Step.result?) := by
  intro state taken
  obtain ⟨-, rfl⟩ := Writer.ofFormats_eq_ok_iff.1 hwriter
  have hstate : state.writer = _ := Writer.State.writer_run rfl steps
  rw [List.nil_append] at hstate
  have htaken := Writer.areDocuments_steps read steps
  refine ⟨Writer.State.step_write hstate, fun moment action ↦ ?_,
    fun hrefuses ↦ List.filterMap_congr fun s _ ↦ s.taken?_eq_result? hrefuses⟩
  · dsimp only
    split_ifs with hjson
    · have hbytes := Outlet.isEncodable_fileText_iff htaken
      rcases Writer.State.step_finish_cases read logger hstate hjson moment action with
        ⟨e, hopened, hdone, hkeeps⟩ | ⟨there, hopened, hlocate, hkeeps, hend⟩ <;>
        rw [hopened]
      · exact ⟨hdone, hkeeps⟩
      · refine ⟨hlocate, hkeeps, fun hall ↦ ?_, fun ⟨result, hresult, hnone⟩ ↦ ?_⟩
        · rw [if_pos (hbytes.2 hall)] at hend
          exact ⟨hend.1, fun hthere ↦ ⟨_, _, hend.2 hthere, Outlet.read?_fileText htaken,
            htaken.imp fun _ _ ↦ Outlet.records_of_resultDocument_eq_ok⟩⟩
        · rw [if_neg fun hall ↦ hnone (hbytes.1 hall result hresult)] at hend
          exact hend
    · rw [Writer.State.step_finish_of_json_notMem hstate hjson]
      exact ⟨rfl, .refl _ _⟩

end

/-- A second file has the result of the first as well. -/
theorem results_are_kept_twice :
    ∃ there text documents,
      Writer.ofFormats [.json] "out" = .ok ⟨[.file "out" []]⟩ ∧
      let state := Writer.State.run .written Logger.initial ⟨⟨[.file "out" []]⟩, ⟨[], []⟩⟩
        [.write ⟨2024, 2, 29, 12, 0, 0⟩ ⟨some "\"ä\"", [⟨"ä", .like⟩]⟩,
          .finish ⟨2024, 2, 29, 12, 0, 1⟩ "parse",
          .write ⟨2024, 2, 29, 12, 0, 2⟩ ⟨none, []⟩]
      let next := state.step .written Logger.initial (.finish ⟨2024, 2, 29, 12, 0, 3⟩ "parse")
      next.1 = .ok () ∧
      next.2.disk.locate (Outlet.resultPath ⟨2024, 2, 29, 12, 0, 3⟩ "out" "parse") = .ok there ∧
      next.2.disk.nodeAt there = some (.file (.text text)) ∧
      Json.read? text = some (.array documents) ∧
      List.Forall₂ Outlet.Records documents [⟨some "\"ä\"", [⟨"ä", .like⟩]⟩, ⟨none, []⟩] := by
  have hwriter : Writer.ofFormats [.json] "out" = .ok ⟨[.file "out" []]⟩ := rfl
  have hopened : ((Outlet.openResults ⟨2024, 2, 29, 12, 0, 3⟩ "out" "parse").run.run
      (Writer.State.run .written Logger.initial ⟨⟨[.file "out" []]⟩, ⟨[], []⟩⟩
        [.write ⟨2024, 2, 29, 12, 0, 0⟩ ⟨some "\"ä\"", [⟨"ä", .like⟩]⟩,
          .finish ⟨2024, 2, 29, 12, 0, 1⟩ "parse",
          .write ⟨2024, 2, 29, 12, 0, 2⟩ ⟨none, []⟩]).disk).1 =
      .ok ["out", "json", "parse_20240229_120003.json"] := by
    decide +kernel
  have hbytes : ∀ result ∈ [(⟨some "\"ä\"", [⟨"ä", .like⟩]⟩ : QueryResult), ⟨none, []⟩],
      result.HasBytes := by
    decide +kernel
  have hkept := @results_are_kept _ .written Logger.initial _ _ _ hwriter ⟨[], []⟩
    [.write ⟨2024, 2, 29, 12, 0, 0⟩ ⟨some "\"ä\"", [⟨"ä", .like⟩]⟩,
      .finish ⟨2024, 2, 29, 12, 0, 1⟩ "parse", .write ⟨2024, 2, 29, 12, 0, 2⟩ ⟨none, []⟩]
  generalize Writer.State.run .written Logger.initial _ _ = state at hopened hkept ⊢
  obtain ⟨-, hfinish, htaken⟩ := hkept
  have hend := hfinish ⟨2024, 2, 29, 12, 0, 3⟩ "parse"
  rw [htaken Date.Reader.refuses_written, if_pos (List.mem_singleton.2 rfl), hopened] at hend
  obtain ⟨hlocate, -, hwritten, -⟩ := hend
  obtain ⟨hdone, hfile⟩ := hwritten hbytes
  obtain ⟨text, documents, hnode, hread, hrecords⟩ := hfile List.not_mem_nil
  exact ⟨_, text, documents, hwriter, hdone, hlocate, hnode, hread, hrecords⟩

/-- Nothing is refused by the system, but a query with a surrogate in it leaves the file empty, so that
the result before it is lost as well. -/
theorem result_without_bytes_empties_file :
    ∃ query fault, query = "a" ++ String.singleton (Surroundings.standIn 0xD800) ∧
      let path := Outlet.resultPath ⟨2024, 2, 29, 12, 0, 2⟩ "out" "parse"
      let state := Writer.State.run .written Logger.initial ⟨⟨[.file "out" []]⟩, ⟨[], []⟩⟩
        [.write ⟨2024, 2, 29, 12, 0, 0⟩ (.ofQuery (some "b")),
          .write ⟨2024, 2, 29, 12, 0, 1⟩ (.ofQuery (some query))]
      let next := state.step .written Logger.initial (.finish ⟨2024, 2, 29, 12, 0, 2⟩ "parse")
      next.1 = .error (.disk ⟨.unencodable fault, path⟩) ∧
      next.2.disk.locate path = .ok ["out", "json", "parse_20240229_120002.json"] ∧
      next.2.disk.nodeAt ["out", "json", "parse_20240229_120002.json"] = some (.file "") ∧
      Json.read? "" = none := by
  refine ⟨_, ⟨139, 140, 0xD800⟩, rfl, ?_⟩
  decide +kernel

end SearchFilter
