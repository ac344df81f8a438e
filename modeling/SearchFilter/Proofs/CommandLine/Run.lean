import SearchFilter.CommandLine.Run
import SearchFilter.Proofs.Disk.Path
import SearchFilter.Proofs.Log.SetUp
import SearchFilter.Proofs.Output

/-!
# What a run comes to

A run that calls the command loads its settings, sets up the log, reads the queries and writes the
results; all other runs are over at once.

* `CommandLine.Calls` says that arguments call the command, `CommandLine.IsBarred` that the system cannot
  be asked for the path of the settings.  `CommandLine.run_of_calls`, `CommandLine.run_of_isBarred` and
  `CommandLine.run_cases` say what a run then does, and what it does else;
  `CommandLine.runCommand_cases` does so for the command.
* `CommandLine.runQueries_eq_error_iff`: what stops a run of queries.
* `CommandLine.LeavesResults` says that a run leaves one file besides its run file,
  `CommandLine.HoldsResults` that this file has a record of each query.
* `CommandLine.runLogged_cases`: a run of queries is aborted, or it has written its results.
-/

set_option autoImplicit false

namespace SearchFilter
namespace CommandLine

open Log

/-- What something can be said of is an outcome. -/
theorem exists_eq_ok_of_toOption {ending : Except Crash Outcome} {α : Type} {f : Outcome → α}
    {a : α} (h : ending.toOption.map f = some a) :
    ∃ outcome, ending = .ok outcome ∧ f outcome = a := by
  cases ending with
  | error crash => cases h
  | ok outcome => exact ⟨outcome, rfl, Option.some.inj h⟩

/-! ## The log of a run -/

theorem runAction?_logOptions (settings : Settings) :
    (logOptions settings).runAction? = if settings.toFile then some parseCommand else none := by
  rw [Logger.Options.runAction?, logOptions]
  rfl

theorem runPath?_logOptions (moment : Moment) (settings : Settings) :
    (logOptions settings).runPath? moment =
      if settings.toFile then some (Logger.runPath moment settings.logDir parseCommand)
      else none := by
  rw [Logger.Options.runPath?, runAction?_logOptions]
  split_ifs <;> rfl

theorem rankOfName_logOptions (settings : Settings) :
    Logger.rankOfName (logOptions settings).level = settings.level.rank :=
  Logger.rankOfName_name settings.level

/-! ## The files of a run -/

/-- The name of the run file of a run. -/
def logName (moment : Moment) : String :=
  s!"{parseCommand}_{moment.runStamp}.log"

/-- The name of the file of results of a run. -/
def resultName (moment : Moment) : String :=
  s!"{parseCommand}_{moment.fileStamp}.json"

theorem isName_parseCommand : Path.IsName (parseCommand ++ "_") :=
  ⟨by decide, 'p', by decide, by decide⟩

theorem isName_logName (moment : Moment) : Path.IsName (logName moment) :=
  (isName_parseCommand.append moment.slash_notMem_runStamp).append (by decide)

theorem isName_resultName (moment : Moment) : Path.IsName (resultName moment) :=
  (isName_parseCommand.append moment.slash_notMem_fileStamp).append (by decide)

/-- The last letters of the two names differ. -/
theorem resultName_ne_logName (moment : Moment) : resultName moment ≠ logName moment := by
  intro h
  have hlast := congrArg (·.toList.getLast?) h
  simp [resultName, logName, toString, List.getLast?_cons] at hlast

section

variable [Surroundings] {packages : Packages} {moment : Moment} {disk left after : Disk}
  {args rest queries : List String} {given : String} {settings : Settings} {logger : Logger}

/-! ## Calling the command -/

/-- Whether arguments call the command: its settings are looked for in a path that leads to no
directory, and some arguments are left for the command itself. -/
def Calls (packages : Packages) (disk : Disk) (args : List String) (given : String)
    (rest : List String) : Prop :=
  args ≠ [] ∧ givenFault? given = none ∧ isDirectoryGiven disk given = false ∧
    ∃ settings : Option String, settings.getD defaultSettings = given ∧
      packages.options args = .ok ⟨false, settings, parseCommand :: rest⟩

/-- Whether the system cannot be asked for the path of the settings, and why. -/
def IsBarred (packages : Packages) (args : List String) (cause : Disk.Cause) : Prop :=
  args ≠ [] ∧ ∃ settings names, packages.options args = .ok ⟨false, settings, names⟩ ∧
    givenFault? (settings.getD defaultSettings) = some cause

/-- Settings can be given by their path, whatever stands behind the command. -/
theorem calls_config (hgiven : givenFault? given = none)
    (hdir : isDirectoryGiven disk given = false) (rest : List String) :
    Calls .standard disk ("--config" :: given :: parseCommand :: rest) given rest :=
  ⟨List.cons_ne_nil _ _, hgiven, hdir, some given, rfl, rfl⟩

/-- All arguments behind two hyphens are queries. -/
theorem readQueries_hyphens (queries : List String) :
    Packages.standard.arguments ("--" :: queries) = .ok ⟨false, queries⟩ :=
  rfl

theorem run_of_calls (h : Calls packages disk args given rest) :
    run packages moment disk args = runCommand packages moment disk given rest := by
  obtain ⟨hargs, hgiven, hdir, settings, rfl, hoptions⟩ := h
  simp [run, hargs, hoptions, hgiven, hdir]

theorem run_of_isBarred {cause : Disk.Cause} (h : IsBarred packages args cause) :
    run packages moment disk args = .error (.path cause) := by
  obtain ⟨hargs, settings, names, hoptions, hgiven⟩ := h
  simp [run, hargs, hoptions, hgiven]

/-- **A run calls the command, or it is over at once**: with help, with an error of usage, or because
the system cannot be asked for the path of the settings. -/
theorem run_cases (packages : Packages) (moment : Moment) (disk : Disk) (args : List String) :
    (∃ given rest, Calls packages disk args given rest) ∨
      run packages moment disk args = .ok (helped disk) ∨
      (∃ error, run packages moment disk args = .ok (refused disk error)) ∨
      ∃ cause, IsBarred packages args cause := by
  rw [run]
  split
  · exact .inr (.inl rfl)
  next hargs =>
    have hargs : args ≠ [] := fun hnil ↦ hargs (List.isEmpty_iff.2 hnil)
    cases hoptions : packages.options args with
    | error e => exact .inr (.inr (.inl ⟨e, rfl⟩))
    | ok invocation =>
      obtain ⟨help, settings, names⟩ := invocation
      dsimp only
      cases help with
      | true => exact .inr (.inl rfl)
      | false =>
        rw [if_neg Bool.false_ne_true]
        cases hgiven : givenFault? (settings.getD defaultSettings) with
        | some cause => exact .inr (.inr (.inr ⟨cause, hargs, settings, names, hoptions, hgiven⟩))
        | none =>
          dsimp only
          split_ifs with hdir
          · exact .inr (.inr (.inl ⟨_, rfl⟩))
          · rw [Bool.not_eq_true] at hdir
            cases names with
            | nil => exact .inr (.inr (.inl ⟨_, rfl⟩))
            | cons name rest =>
              by_cases hname : name = parseCommand
              · subst hname
                exact .inl ⟨_, rest, hargs, hgiven, hdir, settings, rfl, hoptions⟩
              · simp only [if_neg hname, unknownCommand]
                split_ifs
                · exact .inr (.inl rfl)
                · exact .inr (.inr (.inl ⟨_, rfl⟩))

/-! ## Places of files -/

/-- The run file of a run is the only file that its logger writes to, and its path leads to it as long
as the disk keeps its directories. -/
theorem of_mem_places (h : logger.Obeys moment (logOptions settings) disk) {places : List Place}
    (hafter : disk.KeepsAllBut places after) {place : Place} (hplace : place ∈ logger.places) :
    settings.toFile = true ∧ place.getLast? = some (logName moment) ∧
      after.locate (Logger.runPath moment settings.logDir parseCommand) = .ok place := by
  have hpath := runPath?_logOptions moment settings
  rcases h.places_cases with ⟨-, hplaces⟩ | ⟨path, there, hsome, hplaces, hlocate, -⟩
  · simp [hplaces] at hplace
  · rw [hsome] at hpath
    split_ifs at hpath with htoFile
    rw [Option.some.inj hpath] at hlocate
    rw [hplaces, List.mem_singleton] at hplace
    subst hplace
    have hname := Disk.getLast?_of_locate_eq_ok ((isName_logName moment).ne_dots (by simp))
      (Path.getLast?_parts_child _ (isName_logName moment)) hlocate
    exact ⟨htoFile, hname, hafter.locate_eq_ok hlocate⟩

/-- The path of the results leads to a place of their name, which is none of the logger. -/
theorem getLast?_of_locate_resultPath (h : logger.Obeys moment (logOptions settings) disk)
    {there : Place}
    (hlocate : left.locate (Outlet.resultPath moment settings.outputDir parseCommand) = .ok there) :
    there.getLast? = some (resultName moment) ∧ there ∉ logger.places := by
  have hname : there.getLast? = some (resultName moment) :=
    Disk.getLast?_of_locate_eq_ok ((isName_resultName moment).ne_dots (by simp))
      (Path.getLast?_parts_child _ (isName_resultName moment)) hlocate
  exact ⟨hname, fun hmem ↦ resultName_ne_logName moment <|
    Option.some.inj (hname.symm.trans (of_mem_places h (.refl [] disk) hmem).2.1)⟩

/-! ## Runs of queries -/

/-- **A run of queries is stopped only at its run file**: it is to be written, and cannot be opened. -/
theorem runQueries_eq_error_iff {crash : Crash} :
    runQueries packages moment disk settings queries = .error crash ↔
      settings.toFile = true ∧ ∃ e left, crash = .disk e ∧
        (Logger.openRunFile moment settings.logDir parseCommand).run.run disk =
          (.error e, left) := by
  constructor
  · intro h
    rw [runQueries] at h
    rcases hset : (Logger.configure moment (logOptions settings)).run.run disk with
      ⟨e | logger, left⟩ <;> rw [hset] at h
    · cases h
      obtain ⟨-, action, haction, hopen⟩ := Logger.configure_eq_error hset
      rw [runAction?_logOptions] at haction
      split_ifs at haction with hfile
      cases haction
      exact ⟨hfile, e, left, rfl, hopen⟩
    · dsimp only at h
      split at h <;> cases h
  · rintro ⟨hfile, e, left, rfl, hopen⟩
    have haction : (logOptions settings).runAction? = some parseCommand := by
      rw [runAction?_logOptions, if_pos hfile]
    rw [runQueries, Logger.configure_of_openRunFile_eq_error haction hopen]

/-- **The command runs queries, or it is over at once**: with help, with an error of usage, or because
the settings cannot be loaded through no fault that is put down to them. -/
theorem runCommand_cases (packages : Packages) (moment : Moment) (disk : Disk) (given : String)
    (rest : List String) :
    (∃ settings queries, loadSettings packages disk given = .ok settings ∧
      packages.arguments rest = .ok ⟨false, queries⟩ ∧
      runCommand packages moment disk given rest =
        runQueries packages moment disk settings queries) ∨
      runCommand packages moment disk given rest = .ok (helped disk) ∨
      (∃ error, runCommand packages moment disk given rest = .ok (refused disk error)) ∨
      ∃ e, loadSettings packages disk given = .error e ∧ e.isRefusal = false ∧
        runCommand packages moment disk given rest = .error (.settings e) := by
  rw [runCommand]
  cases loadSettings packages disk given with
  | error e =>
    cases hrefusal : e.isRefusal with
    | true => exact .inr (.inr (.inl ⟨_, if_pos hrefusal⟩))
    | false => exact .inr (.inr (.inr ⟨e, rfl, hrefusal, if_neg (Bool.eq_false_iff.1 hrefusal)⟩))
  | ok settings =>
    cases packages.arguments rest with
    | error error => exact .inr (.inr (.inl ⟨error, rfl⟩))
    | ok request =>
      obtain ⟨help, queries⟩ := request
      cases help with
      | true => exact .inr (.inl rfl)
      | false => exact .inl ⟨settings, queries, rfl, rfl, rfl⟩

/-- Settings that can be loaded and queries that are asked for lead to a run of queries. -/
theorem run_eq_runQueries (hcalls : Calls packages disk args given rest)
    (hqueries : packages.arguments rest = .ok ⟨false, queries⟩)
    (hsettings : loadSettings packages disk given = .ok settings) :
    run packages moment disk args = runQueries packages moment disk settings queries := by
  rw [run_of_calls hcalls, runCommand, hsettings, hqueries]
  rfl

/-- What a run of queries does once the log is set up. -/
theorem runQueries_of_configure_eq_ok
    (h : (Logger.configure moment (logOptions settings)).run.run disk = (.ok logger, left)) :
    runQueries packages moment disk settings queries =
      if selectQueries settings queries = [] then .ok (refused left .noQueries)
      else .ok (runLogged packages logger moment left settings (selectQueries settings queries)) := by
  rw [runQueries, h]
  cases selectQueries settings queries <;> rfl

/-! ## What a run leaves -/

/-- Whether one file has come to a disk, besides the run files in some places: the file of the results
of a run, with some contents. -/
def LeavesResults (moment : Moment) (settings : Settings) (contents : Disk.Contents)
    (logs : List Place) (before after : Disk) : Prop :=
  ∃ there, there ∉ logs ∧ there.getLast? = some (resultName moment) ∧
    after.locate (Outlet.resultPath moment settings.outputDir parseCommand) = .ok there ∧
    after.nodeAt there = some (.file contents) ∧ before.KeepsAllBut (there :: logs) after

namespace LeavesResults

variable {contents : Disk.Contents} {logs : List Place}

/-- The same has come to a disk that had all files before but the run files. -/
theorem of_keepsAllBut (h : LeavesResults moment settings contents logs left after)
    (hkeeps : disk.KeepsAllBut logs left) :
    LeavesResults moment settings contents logs disk after := by
  obtain ⟨there, hthere, hname, hlocate, hnode, hafter⟩ := h
  exact ⟨there, hthere, hname, hlocate, hnode,
    (hkeeps.mono (List.subset_cons_self there logs)).trans hafter⟩

/-- It stays there while run files are written. -/
theorem trans_keepsAllBut (h : LeavesResults moment settings contents logs disk left)
    (hkeeps : left.KeepsAllBut logs after) :
    LeavesResults moment settings contents logs disk after := by
  obtain ⟨there, hthere, hname, hlocate, hnode, hleft⟩ := h
  exact ⟨there, hthere, hname, hkeeps.locate_eq_ok hlocate, (hkeeps.file there hthere _).2 hnode,
    hleft.trans (hkeeps.mono (List.subset_cons_self there logs))⟩

theorem exists_keepsAllBut (h : LeavesResults moment settings contents logs disk after) :
    ∃ places, disk.KeepsAllBut places after := by
  obtain ⟨there, -, -, -, -, hafter⟩ := h
  exact ⟨there :: logs, hafter⟩

end LeavesResults

/-- Whether documents are records of queries, in their order: each has the text of its query and the
items of its conditions. -/
def AreRecords (read : Date.Reader) : List Json → List String → Prop :=
  List.Forall₂ fun document query ↦
    ∃ its, (Report.items read (Query.parse (some query)).value).value = .ok its ∧
      document = .object [("query", .string query), ("predicates", .array (its.map (·.toJson)))]

/-- The documents of the results of queries are their records. -/
theorem areRecords_of_areDocuments {read : Date.Reader} {documents : List Json}
    (h : Outlet.AreDocuments read documents ((queries.map some).map .ofQuery)) :
    AreRecords read documents queries := by
  rw [Outlet.AreDocuments, List.map_map, List.forall₂_map_right_iff] at h
  exact h.imp fun _ _ ↦ Outlet.exists_items_of_resultDocument_eq_ok

/-- Whether one file has come to a disk, besides the run files in some places: the file of the results
of a run, which is read as records of the queries. -/
def HoldsResults (read : Date.Reader) (moment : Moment) (settings : Settings) (queries : List String)
    (logs : List Place) (before after : Disk) : Prop :=
  ∃ text documents, LeavesResults moment settings (.text text) logs before after ∧
    Json.read? text = some (.array documents) ∧ AreRecords read documents queries

/-! ## Runs with a logger that is set up -/

theorem keepsAllBut_aborted (logger : Logger) (moment : Moment) (disk : Disk)
    (shown message : String) :
    disk.KeepsAllBut logger.places (aborted logger moment disk shown message).disk :=
  logger.keepsAllBut_emit moment disk [⟨Level.error.rank, "Parse failed: " ++ message⟩]

/-- What a file of results holds once the records of its end are sent. -/
theorem leavesResults_emit {there : Place} {contents : Disk.Contents}
    (h : logger.Obeys moment (logOptions settings) disk)
    (hlocate : left.locate (Outlet.resultPath moment settings.outputDir parseCommand) = .ok there)
    (hnode : left.nodeAt there = some (.file contents)) (hkeeps : disk.KeepsAllBut [there] left)
    (records : List Record) :
    LeavesResults moment settings contents logger.places disk
      (logger.emit moment left records).1 := by
  obtain ⟨hname, hthere⟩ := getLast?_of_locate_resultPath h hlocate
  have hleft : LeavesResults moment settings contents logger.places disk left :=
    ⟨there, hthere, hname, hlocate, hnode,
      hkeeps.mono (List.cons_subset_cons _ (List.nil_subset _))⟩
  exact hleft.trans_keepsAllBut (logger.keepsAllBut_emit moment left records)

/-- **What the end of a run leaves** that has documents for its file.  It fails if the file cannot be
opened, which then has not changed, or if it gets no text. -/
theorem finish_cases (h : logger.Obeys moment (logOptions settings) disk)
    (hjson : .json ∈ settings.formats) (documents : List Json) :
    let writer : Writer := ⟨Outlet.ofFormats settings.formats settings.outputDir documents⟩
    let finished := writer.finish moment parseCommand disk
    (∃ e left, finished = ⟨(.error e, left), []⟩ ∧ logger.Obeys moment (logOptions settings) left ∧
      (disk.KeepsAllBut logger.places left ∨
        Text.isEncodable (Outlet.fileText documents) = false ∧
          LeavesResults moment settings "" logger.places disk left)) ∨
    ∃ left records, finished = ⟨(.ok (), left), records⟩ ∧
      Text.isEncodable (Outlet.fileText documents) = true ∧
      LeavesResults moment settings (.text (Outlet.fileText documents)) logger.places disk
        (logger.emit moment left records).1 := by
  intro writer finished
  have hfinished : finished = _ :=
    (Outlet.finishAll_ofFormats moment parseCommand disk settings.formats settings.outputDir
      documents).trans (if_pos hjson)
  rcases Outlet.finish_file_cases moment settings.outputDir parseCommand documents disk with
    ⟨e, left, -, hended, hkeeps⟩ | ⟨there, left, -, hbytes, hended, hlocate, hnode, hkeeps⟩ |
    ⟨there, left, fault, -, hbytes, hended, hlocate, hnode, hkeeps⟩ <;> rw [hended] at hfinished
  · exact .inl ⟨e, left, hfinished,
      h.of_keepsAllBut hkeeps fun _ ↦ hkeeps.hasFile List.not_mem_nil,
      .inl (hkeeps.mono (List.nil_subset _))⟩
  · exact .inr ⟨left, _, hfinished, hbytes, leavesResults_emit h hlocate hnode hkeeps _⟩
  · exact .inl ⟨_, left, hfinished,
      h.of_keepsAllBut hkeeps fun _ ↦ hkeeps.hasFile_of_hasFile ⟨_, hnode⟩,
      .inr ⟨hbytes, leavesResults_emit h hlocate hnode hkeeps []⟩⟩

/-- The documents of queries have bytes just when the queries have. -/
theorem isEncodable_fileText_queries_iff {read : Date.Reader} {documents : List Json}
    (h : Outlet.AreDocuments read documents ((queries.map some).map .ofQuery)) :
    Text.isEncodable (Outlet.fileText documents) = true ↔
      ∀ query ∈ queries, Text.isEncodable query = true := by
  rw [Outlet.isEncodable_fileText_iff h, List.map_map, List.forall_mem_map]
  exact forall₂_congr fun query _ ↦ QueryResult.hasBytes_ofQuery_iff query

/-- **A run of queries is aborted, or it has written its results.**  If there is a format at all, it is
aborted only where results go to a file; this has not changed then, or it is empty and some query has no
bytes. -/
theorem runLogged_cases (h : logger.Obeys moment (logOptions settings) disk) :
    (∃ left shown message,
      runLogged packages logger moment disk settings queries =
        aborted logger moment left shown message ∧
      logger.Obeys moment (logOptions settings) left ∧
      (settings.formats = [] ∨ .json ∈ settings.formats) ∧
      (disk.KeepsAllBut logger.places left ∨
        (∃ query ∈ queries, Text.isEncodable query = false) ∧
          LeavesResults moment settings "" logger.places disk left)) ∨
    ∃ outcome, runLogged packages logger moment disk settings queries = outcome ∧
      outcome.exitCode = 0 ∧
      if .json ∈ settings.formats then
        (∀ query ∈ queries, Text.isEncodable query = true) ∧
          HoldsResults packages.dates moment settings queries logger.places disk outcome.disk
      else disk.KeepsAllBut logger.places outcome.disk := by
  cases hwriter : Writer.ofFormats settings.formats settings.outputDir with
  | error e =>
    refine .inl ⟨disk, "", e.message, ?_, h, .inl (Writer.ofFormats_eq_error hwriter),
      .inl (.refl _ disk)⟩
    rw [runLogged, hwriter]
  | ok writer =>
    obtain ⟨-, rfl⟩ := Writer.ofFormats_eq_ok_iff.1 hwriter
    have hcases := readQueriesFrom_cases packages.dates settings.formats settings.outputDir [] 1
      (queries.map some).length (queries.map some)
    obtain ⟨results, hresults⟩ : ∃ results, SearchFilter.readQueries packages.dates
        ⟨Outlet.ofFormats settings.formats settings.outputDir []⟩ (queries.map some) = results :=
      ⟨_, rfl⟩
    rw [← SearchFilter.readQueries, hresults] at hcases
    obtain ⟨⟨done, writer⟩, records⟩ := results
    have hkeeps := logger.keepsAllBut_emit moment disk records
    have hobeys := h.emit moment records
    rcases hemit : logger.emit moment disk records with ⟨middle, shown⟩
    rw [hemit] at hkeeps hobeys
    rcases hcases with ⟨documents, hread, hdocuments⟩ | ⟨hjson, e, hread, -⟩
    · obtain ⟨rfl, rfl⟩ := Prod.mk.inj hread
      rw [List.nil_append] at hresults
      by_cases hjson : .json ∈ settings.formats
      · simp only [if_pos hjson]
        have hbytes := isEncodable_fileText_queries_iff (hdocuments hjson)
        rcases finish_cases hobeys hjson documents with
          ⟨e, left, hfinish, hobeys, hleft⟩ | ⟨left, more, hfinish, hall, hleft⟩
        · refine .inl ⟨left, shown ++ "", e.message, ?_, hobeys, .inr hjson, ?_⟩
          · simp only [runLogged, hwriter, hresults, hemit, hfinish, Logger.emit]
          · rcases hleft with hleft | ⟨hnone, hleft⟩
            · exact .inl (hkeeps.trans hleft)
            · exact .inr ⟨by simpa [hnone] using hbytes, hleft.of_keepsAllBut hkeeps⟩
        · refine .inr ⟨⟨0, "", shown ++ (logger.emit moment left more).2,
            (logger.emit moment left more).1⟩, ?_, rfl, hbytes.1 hall, _, documents,
            hleft.of_keepsAllBut hkeeps, Outlet.read?_fileText (hdocuments hjson),
            areRecords_of_areDocuments (hdocuments hjson)⟩
          simp only [runLogged, hwriter, hresults, hemit, hfinish]
      · have hfinish := (Outlet.finishAll_ofFormats moment parseCommand middle settings.formats
          settings.outputDir documents).trans (if_neg hjson)
        refine .inr ⟨⟨0, "", shown ++ "", middle⟩, ?_, rfl, by rwa [if_neg hjson]⟩
        simp only [runLogged, hwriter, hresults, hemit, Writer.finish, hfinish, Logger.emit]
    · refine .inl ⟨middle, shown, e.message, ?_, hobeys, .inr hjson, .inl hkeeps⟩
      simp only [runLogged, hwriter, hresults, hemit, show done = .error e from hread]

end

end CommandLine
end SearchFilter
