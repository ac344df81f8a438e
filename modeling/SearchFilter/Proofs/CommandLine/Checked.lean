import SearchFilter.Proofs.CommandLine.Run
import SearchFilter.Proofs.Settings.Load

/-!
# Runs under checked settings

All runs of queries are under settings that have been checked.  For these there is always a writer,
so a run of queries is aborted only when this fails: when its results cannot be written, or when the
reader of dates has a fault of its own.

* `CommandLine.AbortedBy` says that a failure of the writer has aborted a run.
* `CommandLine.runQueries_exitCode_eq_one_iff`: where there is a format, a run of queries is aborted
  by nothing else.
* `CommandLine.exists_disk_of_abortedBy`: a reader without faults of its own aborts no run.
* `CommandLine.exists_runQueries_of_exitCode_eq_one`: a run that is aborted is one of queries.
* `CommandLine.checked_settings_are_usable`: checked settings are read back from the mapping that is
  written for them, there is a writer for them, and no run is aborted for want of one.
-/

set_option autoImplicit false

namespace SearchFilter

theorem Writer.Failure.exists_iff {p : Writer.Failure → Prop} :
    (∃ failure, p failure) ↔ (∃ e, p (.dates e)) ∨ ∃ e, p (.disk e) := by
  constructor
  · rintro ⟨e | e, h⟩
    · exact .inl ⟨e, h⟩
    · exact .inr ⟨e, h⟩
  · rintro (⟨e, h⟩ | ⟨e, h⟩) <;> exact ⟨_, h⟩

theorem Text.head?_faultMessage (what shown why : String) (start stop : Nat) :
    (faultMessage what shown why start stop).toList.head? = some '\'' := by
  unfold faultMessage
  simp

/-- The messages of the disk start with a bracket or a quotation mark, or with a small letter. -/
theorem Disk.Error.message_ne_noFormats [Surroundings] (e : Disk.Error) :
    e.message ≠ Writer.Error.noFormats.message := by
  intro h
  have hfirst := congrArg (·.toList.head?) h
  obtain ⟨cause, path⟩ := e
  cases cause with
  | unencodable fault | undecodable fault =>
    exact absurd ((Text.head?_faultMessage _ _ _ _ _).symm.trans hfirst) (by decide)
  | nullInPath | noEntry | alreadyThere | notDirectory | isDirectory | nameTooLong =>
    simp [message, Cause.number?, Cause.words, Writer.Error.message, toString] at hfirst

namespace CommandLine

open Log

/-- Whether a writer serves what settings ask for: the console once if this is one of their formats, a
file below their directory once if that is one, and nothing else; and there are no results yet. -/
structure ServesFormats (settings : Settings) (writer : Writer) : Prop where
  console : writer.outlets.countP Outlet.isConsole = if .console ∈ settings.formats then 1 else 0
  file : ∀ dir, writer.outlets.countP (Outlet.isFileIn dir) =
    if .json ∈ settings.formats ∧ settings.outputDir = dir then 1 else 0
  only : ∀ outlet ∈ writer.outlets, outlet = .console ∨ outlet = .file settings.outputDir []

theorem servesFormats_of_ofFormats_eq_ok {settings : Settings} {writer : Writer}
    (h : Writer.ofFormats settings.formats settings.outputDir = .ok writer) :
    ServesFormats settings writer := by
  obtain ⟨-, rfl⟩ := Writer.ofFormats_eq_ok_iff.1 h
  refine ⟨Outlet.countP_isConsole_ofFormats _ _ _, Outlet.countP_isFileIn_ofFormats _ _ _,
    fun outlet hmem ↦ ?_⟩
  rcases List.mem_append.1 hmem with hmem | hmem
  · exact .inl (List.eq_of_mem_singleton (List.mem_ite_nil_right.1 hmem).2)
  · exact .inr (List.eq_of_mem_singleton (List.mem_ite_nil_right.1 hmem).2)

section

variable [Surroundings] {packages : Packages} {moment : Moment} {disk : Disk}
  {args rest queries : List String} {given : String} {settings : Settings} {logger : Logger}
  {writer : Writer} {outcome : Outcome}

/-! ## Runs that a failure aborts -/

/-- Whether a writer failed that was given the results of some queries, so that the run was aborted with
the message of the failure: on the way, or at the end. -/
def AbortedWith (packages : Packages) (moment : Moment) (disk : Disk) (logger : Logger)
    (writer : Writer) (queries : List String) (outcome : Outcome) : Writer.Failure → Prop
  | .dates e =>
    let results := SearchFilter.readQueries packages.dates writer (queries.map some)
    let emitted := logger.emit moment disk results.records
    results.value.1 = .error e ∧ outcome = aborted logger moment emitted.1 emitted.2 e.message
  | .disk e =>
    let results := SearchFilter.readQueries packages.dates writer (queries.map some)
    let emitted := logger.emit moment disk results.records
    let finished := results.value.2.finish moment parseCommand emitted.1
    let more := logger.emit moment finished.value.2 finished.records
    (∃ all, results.value.1 = .ok all) ∧ finished.value.1 = .error e ∧
      outcome = aborted logger moment more.1 (emitted.2 ++ more.2) e.message

/-- **Whether a failure has aborted a run of queries.**  The log was set up and there was a writer, but
this has failed. -/
def AbortedBy (packages : Packages) (moment : Moment) (disk : Disk) (settings : Settings)
    (queries : List String) (failure : Writer.Failure) (outcome : Outcome) : Prop :=
  selectQueries settings queries ≠ [] ∧ ∃ logger ready writer,
    (Logger.configure moment (logOptions settings)).run.run disk = (.ok logger, ready) ∧
    Writer.ofFormats settings.formats settings.outputDir = .ok writer ∧
    AbortedWith packages moment ready logger writer (selectQueries settings queries) outcome failure

/-- With a writer, a run whose log is set up is aborted when this fails. -/
theorem runLogged_exitCode_eq_one_iff
    (hwriter : Writer.ofFormats settings.formats settings.outputDir = .ok writer) :
    (runLogged packages logger moment disk settings queries = outcome ∧ outcome.exitCode = 1) ↔
      ∃ failure, AbortedWith packages moment disk logger writer queries outcome failure := by
  rw [Writer.Failure.exists_iff]
  rcases hvalue : (SearchFilter.readQueries packages.dates writer (queries.map some)).value with
    ⟨e | all, after⟩
  · simp only [runLogged, AbortedWith, hwriter, hvalue]
    constructor
    · rintro ⟨rfl, -⟩
      exact .inl ⟨e, rfl, rfl⟩
    · rintro (⟨_, ⟨⟩, rfl⟩ | ⟨_, ⟨_, ⟨⟩⟩, -⟩)
      exact ⟨rfl, rfl⟩
  · rcases hfinished : (after.finish moment parseCommand (logger.emit moment disk
        (SearchFilter.readQueries packages.dates writer (queries.map some)).records).1).value with
      ⟨e | _, left⟩
    · simp only [runLogged, AbortedWith, hwriter, hvalue, hfinished]
      constructor
      · rintro ⟨rfl, -⟩
        exact .inr ⟨e, ⟨all, rfl⟩, rfl, rfl⟩
      · rintro (⟨_, ⟨⟩, -⟩ | ⟨_, -, ⟨⟩, rfl⟩)
        exact ⟨rfl, rfl⟩
    · simp only [runLogged, AbortedWith, hwriter, hvalue, hfinished]
      constructor
      · rintro ⟨rfl, ⟨⟩⟩
      · rintro (⟨_, ⟨⟩, -⟩ | ⟨_, -, ⟨⟩, -⟩)

/-- **Where there is a format, a run of queries is aborted by a failure of its writer**, and by nothing
else. -/
theorem runQueries_exitCode_eq_one_iff (hformats : settings.formats ≠ []) :
    (runQueries packages moment disk settings queries = .ok outcome ∧ outcome.exitCode = 1) ↔
      ∃ failure, AbortedBy packages moment disk settings queries failure outcome := by
  have hwriter := Writer.ofFormats_eq_ok_of_ne_nil hformats settings.outputDir
  constructor
  · rintro ⟨hrun, hcode⟩
    rcases hset : (Logger.configure moment (logOptions settings)).run.run disk with
      ⟨e | logger, ready⟩
    · rw [runQueries, hset] at hrun
      cases hrun
    · rw [runQueries_of_configure_eq_ok hset] at hrun
      split_ifs at hrun with hnone
      · cases hrun
        cases hcode
      · obtain ⟨failure, hend⟩ :=
          (runLogged_exitCode_eq_one_iff hwriter).1 ⟨Except.ok.inj hrun, hcode⟩
        exact ⟨failure, hnone, logger, ready, _, hset, hwriter, hend⟩
  · rintro ⟨failure, hsome, logger, ready, _, hset, hwriter', hend⟩
    cases hwriter'.symm.trans hwriter
    obtain ⟨hrun, hcode⟩ := (runLogged_exitCode_eq_one_iff hwriter).2 ⟨failure, hend⟩
    rw [runQueries_of_configure_eq_ok hset, if_neg hsome, hrun]
    exact ⟨rfl, hcode⟩

/-- **A reader of dates without faults of its own aborts no run**: only the disk does. -/
theorem exists_disk_of_abortedBy (hrefuses : packages.dates.Refuses) {failure : Writer.Failure}
    (h : AbortedBy packages moment disk settings queries failure outcome) :
    ∃ e, failure = .disk e := by
  obtain ⟨-, logger, ready, writer, -, hwriter, hend⟩ := h
  cases failure with
  | disk e => exact ⟨e, rfl⟩
  | dates e =>
    obtain ⟨-, rfl⟩ := Writer.ofFormats_eq_ok_iff.1 hwriter
    rcases readQueriesFrom_cases packages.dates settings.formats settings.outputDir [] 1
        ((selectQueries settings queries).map some).length
        ((selectQueries settings queries).map some) with
      ⟨documents, hread, -⟩ | ⟨-, e', -, query, -, hfail⟩
    · cases (congrArg Prod.fst hread).symm.trans hend.1
    · obtain ⟨document, hdocument⟩ := Writer.exists_resultDocument_eq_ok hrefuses (.ofQuery query)
      cases hfail.symm.trans hdocument

/-- **A run that is aborted is one of queries**, under settings that could be loaded. -/
theorem exists_runQueries_of_exitCode_eq_one (h : run packages moment disk args = .ok outcome)
    (hcode : outcome.exitCode = 1) :
    ∃ given settings queries, loadSettings packages disk given = .ok settings ∧
      runQueries packages moment disk settings queries = .ok outcome := by
  have hhelped : run packages moment disk args ≠ .ok (helped disk) := by
    intro hrun
    cases hrun.symm.trans h
    cases hcode
  have hrefused (error : UsageError) : run packages moment disk args ≠ .ok (refused disk error) := by
    intro hrun
    cases hrun.symm.trans h
    cases hcode
  rcases run_cases packages moment disk args with
    ⟨given, rest, hcalls⟩ | hrun | ⟨error, hrun⟩ | ⟨cause, hbarred⟩
  · have hcommand : run packages moment disk args = _ := run_of_calls hcalls
    rcases runCommand_cases packages moment disk given rest with
      ⟨settings, queries, hsettings, -, hrun⟩ | hrun | ⟨error, hrun⟩ | ⟨e, -, -, hrun⟩ <;>
      rw [hrun] at hcommand
    · exact ⟨given, settings, queries, hsettings, hcommand.symm.trans h⟩
    · exact absurd hcommand hhelped
    · exact absurd hcommand (hrefused error)
    · cases hcommand.symm.trans h
  · exact absurd hrun hhelped
  · exact absurd hrun (hrefused error)
  · cases (run_of_isBarred hbarred).symm.trans h

/-- **Checked settings are stable, and runs can use them.**  Settings that a mapping holds are read
back from the mapping that is written for them, as from any other in which their values stand.  There
is a writer for them: it serves the console once if this is one of their formats, a file below their
directory once if that is one, and nothing else.  So a run of queries under them is aborted only when
this fails, and never because there is no writer; and no other run is aborted at all.  With a reader of
dates without faults of its own it is always the disk that fails. -/
theorem checked_settings_are_usable (packages : Packages) :
    (∀ entries settings, Settings.ofEntries entries = .ok settings →
      Settings.ofEntries settings.written.toEntries = .ok settings ∧
      (∀ rebuilt, settings.written.StandsIn rebuilt →
        Settings.ofEntries rebuilt = .ok settings) ∧
      (∃ writer, Writer.ofFormats settings.formats settings.outputDir = .ok writer ∧
        ServesFormats settings writer) ∧
      ∀ moment disk queries outcome,
        runQueries packages moment disk settings queries = .ok outcome → outcome.exitCode = 1 →
        ∃ failure, AbortedBy packages moment disk settings queries failure outcome ∧
          (packages.dates.Refuses → ∃ e, failure = .disk e) ∧
          ∀ e, failure = .disk e → e.message ≠ "No output writers configured") ∧
    ∀ moment disk args outcome, run packages moment disk args = .ok outcome →
      outcome.exitCode = 1 →
      ∃ given settings queries failure, loadSettings packages disk given = .ok settings ∧
        AbortedBy packages moment disk settings queries failure outcome ∧
        (packages.dates.Refuses → ∃ e, failure = .disk e) ∧
        ∀ e, failure = .disk e → e.message ≠ "No output writers configured" := by
  have hmessage : ∀ {failure : Writer.Failure} e, failure = .disk e →
      e.message ≠ "No output writers configured" := fun e _ ↦ e.message_ne_noFormats
  refine ⟨fun entries settings h ↦ ?_, fun moment disk args outcome hrun hcode ↦ ?_⟩
  · have hsound : settings.IsSound := Settings.isSound_iff.2 ⟨entries, h⟩
    have hwriter := Writer.ofFormats_eq_ok_of_ne_nil hsound.someFormat settings.outputDir
    refine ⟨hsound.ofEntries_eq_ok settings.written.standsIn_toEntries,
      fun rebuilt ↦ hsound.ofEntries_eq_ok, ⟨_, hwriter, servesFormats_of_ofFormats_eq_ok hwriter⟩,
      fun moment disk queries outcome hrun hcode ↦ ?_⟩
    obtain ⟨failure, haborted⟩ :=
      (runQueries_exitCode_eq_one_iff hsound.someFormat).1 ⟨hrun, hcode⟩
    exact ⟨failure, haborted, fun hrefuses ↦ exists_disk_of_abortedBy hrefuses haborted, hmessage⟩
  · obtain ⟨given, settings, queries, hsettings, hrun⟩ :=
      exists_runQueries_of_exitCode_eq_one hrun hcode
    have hsound : settings.IsSound := Settings.isSound_of_loadOver hsettings
    obtain ⟨failure, haborted⟩ :=
      (runQueries_exitCode_eq_one_iff hsound.someFormat).1 ⟨hrun, hcode⟩
    exact ⟨given, settings, queries, failure, hsettings, haborted,
      fun hrefuses ↦ exists_disk_of_abortedBy hrefuses haborted, hmessage⟩

end

/-- Two formats, one of them named twice, and a file in the way of the results. -/
theorem checked_settings_are_usable_file_in_the_way :
    ∃ (entries : Entries) (text : String) (settings : Settings) (disk : Disk) (outcome : Outcome),
      entries =
        [("log", .mapping
            [("level", .string " info"), ("to_file", .bool false), ("dir", .string "log")]),
          ("output", .mapping [("base_dir", .string "out"),
            ("formats", .list [.string "JSON", .string " ", .string "console", .string "json"])]),
          ("queries", .string "a OR b")] ∧
      settings = ⟨.info, false, "log", "out", [.json, .console], ["a OR b"]⟩ ∧
      disk = ⟨[(["my.yml"], .file text), (["out"], .file "")], []⟩ ∧
      Settings.ofEntries entries = .ok settings ∧
      Settings.ofEntries settings.written.toEntries = .ok settings ∧
      (∃ writer, Writer.ofFormats settings.formats settings.outputDir = .ok writer ∧
        writer.outlets.countP Outlet.isConsole = 1 ∧
        writer.outlets.countP (Outlet.isFileIn "out") = 1 ∧
        writer.outlets.countP (Outlet.isFileIn "log") = 0) ∧
      run .standard ⟨2009, 1, 15, 12, 34, 56⟩ disk ["--config", "my.yml", "parse"] = .ok outcome ∧
      outcome.exitCode = 1 ∧
      (∃ e, AbortedBy .standard ⟨2009, 1, 15, 12, 34, 56⟩ disk settings [] (.disk e) outcome) ∧
      ∃ given loaded queries e, loadSettings .standard disk given = .ok loaded ∧
        AbortedBy .standard ⟨2009, 1, 15, 12, 34, 56⟩ disk loaded queries (.disk e) outcome ∧
          e.message ≠ "No output writers configured" := by
  obtain ⟨text, htext⟩ : ∃ text, "log: {level: info, to_file: no, dir: log}\n" ++
    "output: {base_dir: out, formats: [json, console]}\nqueries: a OR b\n" = text := ⟨_, rfl⟩
  obtain ⟨disk, hdisk⟩ : ∃ disk : Disk,
    disk = ⟨[(["my.yml"], .file text), (["out"], .file "")], []⟩ := ⟨_, rfl⟩
  obtain ⟨settings, hsettings⟩ : ∃ settings : Settings,
    settings = ⟨.info, false, "log", "out", [.json, .console], ["a OR b"]⟩ := ⟨_, rfl⟩
  obtain ⟨hchecked, hruns⟩ := checked_settings_are_usable .standard
  have hentries : Settings.ofEntries
      [("log", .mapping
          [("level", .string " info"), ("to_file", .bool false), ("dir", .string "log")]),
        ("output", .mapping [("base_dir", .string "out"),
          ("formats", .list [.string "JSON", .string " ", .string "console", .string "json"])]),
        ("queries", .string "a OR b")] = .ok settings := by
    subst hsettings
    decide +kernel
  obtain ⟨hagain, -, ⟨writer, hwriter, hserves⟩, hqueries⟩ := hchecked _ settings hentries
  have hload : loadSettings .standard disk "my.yml" = .ok settings := by
    subst htext hdisk hsettings
    decide +kernel
  obtain ⟨outcome, hrun, hcode⟩ : ∃ outcome,
      runQueries .standard ⟨2009, 1, 15, 12, 34, 56⟩ disk settings [] = .ok outcome ∧
        outcome.exitCode = 1 := by
    refine exists_eq_ok_of_toOption ?_
    subst htext hdisk hsettings
    decide +kernel
  have hcalls : Calls .standard disk ["--config", "my.yml", "parse"] "my.yml" [] :=
    calls_config (by decide +kernel) (by subst hdisk; rfl) []
  have hprogram := (run_eq_runQueries hcalls rfl hload).trans hrun
  obtain ⟨_, haborted, hdiskFails, -⟩ := hqueries _ disk [] outcome hrun hcode
  obtain ⟨e, rfl⟩ := hdiskFails Date.Reader.refuses_written
  obtain ⟨given, loaded, queries, _, hloaded, haborted', hdiskFails', hmessage⟩ :=
    hruns _ disk _ outcome hprogram hcode
  obtain ⟨e', rfl⟩ := hdiskFails' Date.Reader.refuses_written
  refine ⟨_, text, settings, disk, outcome, rfl, hsettings, hdisk, hentries, hagain,
    ⟨writer, hwriter, ?_, ?_, ?_⟩, hprogram, hcode, ⟨e, haborted⟩, given, loaded, queries, e',
    hloaded, haborted', hmessage e' rfl⟩
  · rw [hserves.console, hsettings]
    rfl
  · rw [hserves.file, hsettings]
    rfl
  · rw [hserves.file, hsettings]
    rfl

end CommandLine
end SearchFilter
