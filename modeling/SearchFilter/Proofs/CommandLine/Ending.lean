import SearchFilter.Proofs.CommandLine.Run
import SearchFilter.Proofs.Settings.Load

/-!
# How runs end

A run ends in one of three ways: well, aborted after a record that the parse failed, or refused with an
error.  Four things stop it before: a path of settings that the system cannot be asked for, a file of
settings that is no document, two such files of which one cannot be laid over the other, and a run file
that cannot be opened.

* `CommandLine.EndsAborted` and `CommandLine.EndsRefused` say how a run ends that is aborted or
  refused.
* `CommandLine.Stops` says what stops a run of the command.
* `CommandLine.ends_unless_stopped`: every run ends in one of the three ways, unless it is stopped.
-/

set_option autoImplicit false

namespace SearchFilter
namespace CommandLine

open Log

section

variable [Surroundings] {packages : Packages} {moment : Moment} {disk : Disk}
  {args rest queries : List String} {given : String} {settings : Settings} {logger : Logger}
  {outcome : Outcome} {crash : Crash}

/-! ## Runs that are aborted -/

/-- Whether a run under settings was aborted.  Its last record says that the parse failed, and why: it
is shown if its level is, and the run file ends with it if there is one.  A record without bytes is kept
from the run file, and that is reported. -/
def EndsAborted (moment : Moment) (settings : Settings) (outcome : Outcome) : Prop :=
  outcome.exitCode = 1 ∧ ∃ message shown,
    let line := Logger.formatted moment ⟨Level.error.rank, "Parse failed: " ++ message⟩
    outcome.stderr =
      shown ++ ((if settings.level.rank ≤ Level.error.rank then line else "") ++
        if Text.isEncodable line || !settings.toFile then "" else Surroundings.report line) ++
          "Aborted!\n" ∧
    (settings.toFile = true → ∃ place before,
      outcome.disk.locate (Logger.runPath moment settings.logDir parseCommand) = .ok place ∧
        outcome.disk.nodeAt place =
          some (.file (if Text.isEncodable line then before.extend line else before)))

/-- What a run comes to that is aborted with a logger that does as the settings say. -/
theorem aborted_eq (h : logger.Obeys moment (logOptions settings) disk) (shown message : String) :
    let line := Logger.formatted moment ⟨Level.error.rank, "Parse failed: " ++ message⟩
    aborted logger moment disk shown message =
      ⟨1, "", shown ++ ((if settings.level.rank ≤ Level.error.rank then line else "") ++
        if Text.isEncodable line || !settings.toFile then "" else Surroundings.report line) ++
          "Aborted!\n", Logger.mirrored logger.places line disk⟩ := by
  have hne : Logger.rankOfName (logOptions settings).level ≠ 0 := by
    rw [rankOfName_logOptions]
    exact settings.level.rank_ne_zero
  have hrank : Level.debug.rank ≤ (⟨Level.error.rank, "Parse failed: " ++ message⟩ : Record).rank :=
    Level.debug_rank_le .error
  have hemit := h.emitOne_eq hne moment hrank
  have hnone : ((logOptions settings).runPath? moment).isNone = !settings.toFile := by
    rw [runPath?_logOptions]
    cases settings.toFile <;> rfl
  rw [rankOfName_logOptions, h.reported_eq, hnone] at hemit
  rw [aborted, Logger.emit_singleton, hemit]

theorem endsAborted_aborted (h : logger.Obeys moment (logOptions settings) disk)
    (shown message : String) :
    EndsAborted moment settings (aborted logger moment disk shown message) := by
  have haborted := aborted_eq h shown message
  have hkeeps := keepsAllBut_aborted logger moment disk shown message
  refine ⟨rfl, message, shown, ?_⟩
  generalize Logger.formatted moment ⟨Level.error.rank, "Parse failed: " ++ message⟩ = line
    at haborted ⊢
  refine ⟨congrArg Outcome.stderr haborted, fun htoFile ↦ ?_⟩
  have hfile := h.nodeAt_mirrored line
  rw [runPath?_logOptions, if_pos htoFile] at hfile
  obtain ⟨place, before, hlocate, -, hnode⟩ := hfile
  refine ⟨place, before, hkeeps.locate_eq_ok hlocate, ?_⟩
  rw [haborted]
  exact (hnode place).trans (if_pos rfl)

/-! ## Runs that are refused -/

/-- Whether an outcome is that of a run which is refused. -/
def EndsRefused (outcome : Outcome) : Prop :=
  outcome.exitCode = 2 ∧ ∃ error : UsageError, outcome.stderr = "Error: " ++ error.message ++ "\n"

theorem endsRefused_refused (disk : Disk) (error : UsageError) : EndsRefused (refused disk error) :=
  ⟨rfl, error, rfl⟩

/-! ## Runs that are stopped -/

/-- What stops a run of the command: settings that cannot be loaded through no fault that is put down to
them, or a run file that cannot be opened. -/
def Stops (packages : Packages) (moment : Moment) (disk : Disk) (given : String)
    (rest : List String) : Crash → Prop
  | .settings e => loadSettings packages disk given = .error e ∧ e.isRefusal = false
  | .path _ => False
  | .disk e => ∃ settings queries left, loadSettings packages disk given = .ok settings ∧
      packages.arguments rest = .ok ⟨false, queries⟩ ∧ settings.toFile = true ∧
      (Logger.openRunFile moment settings.logDir parseCommand).run.run disk = (.error e, left)

/-- **The command is stopped by nothing else.** -/
theorem runCommand_eq_error_iff :
    runCommand packages moment disk given rest = .error crash ↔
      Stops packages moment disk given rest crash := by
  constructor
  · intro h
    rcases runCommand_cases packages moment disk given rest with
      ⟨settings, queries, hsettings, hqueries, hrun⟩ | hrun | ⟨error, hrun⟩ |
      ⟨e, hsettings, hrefusal, hrun⟩ <;> rw [hrun] at h
    · obtain ⟨htoFile, e, left, rfl, hopen⟩ := runQueries_eq_error_iff.1 h
      exact ⟨settings, queries, left, hsettings, hqueries, htoFile, hopen⟩
    · cases h
    · cases h
    · cases h
      exact ⟨hsettings, hrefusal⟩
  · intro h
    cases crash with
    | settings e =>
      obtain ⟨hsettings, hrefusal⟩ := h
      simp [runCommand, hsettings, hrefusal]
    | path cause => exact h.elim
    | disk e =>
      obtain ⟨settings, queries, left, hsettings, hqueries, htoFile, hopen⟩ := h
      simp only [runCommand, hsettings, hqueries, Bool.false_eq_true, if_false]
      exact runQueries_eq_error_iff.2 ⟨htoFile, e, left, rfl, hopen⟩

/-! ## Runs that end -/

/-- A run of queries that is not stopped ends well, aborted or refused. -/
theorem runQueries_eq_ok (h : runQueries packages moment disk settings queries = .ok outcome) :
    outcome.exitCode = 0 ∨ EndsAborted moment settings outcome ∨ EndsRefused outcome := by
  rcases hset : (Logger.configure moment (logOptions settings)).run.run disk with
    ⟨e | logger, ready⟩
  · rw [runQueries, hset] at h
    cases h
  · rw [runQueries_of_configure_eq_ok hset] at h
    split_ifs at h <;> cases h
    · exact .inr (.inr (endsRefused_refused ready .noQueries))
    · rcases runLogged_cases (Logger.configure_eq_ok hset).1 with
        ⟨left, shown, message, hrun, hobeys, -⟩ | ⟨outcome, hrun, hcode, -⟩ <;> rw [hrun]
      · exact .inr (.inl (endsAborted_aborted hobeys shown message))
      · exact .inl hcode

/-- So does a run of the command; only with settings that can be loaded it is aborted. -/
theorem runCommand_eq_ok (h : runCommand packages moment disk given rest = .ok outcome) :
    outcome.exitCode = 0 ∨
      (∃ settings, loadSettings packages disk given = .ok settings ∧
        EndsAborted moment settings outcome) ∨
      EndsRefused outcome := by
  rcases runCommand_cases packages moment disk given rest with
    ⟨settings, queries, hsettings, -, hrun⟩ | hrun | ⟨error, hrun⟩ | ⟨e, -, -, hrun⟩ <;>
    rw [hrun] at h
  · rcases runQueries_eq_ok h with hcode | haborted | hrefused
    · exact .inl hcode
    · exact .inr (.inl ⟨settings, hsettings, haborted⟩)
    · exact .inr (.inr hrefused)
  · cases h
    exact .inl rfl
  · cases h
    exact .inr (.inr (endsRefused_refused disk error))
  · cases h

/-- **Every run ends in order unless it is stopped.**  It ends well, or it is aborted after a record
that the parse failed, or it is refused with an error; settings that are wrong are always refused.  It
is stopped if the system cannot be asked for the path of the settings, if a file of settings is no
document or cannot be laid over the defaults, or if the run file is asked for and cannot be opened;
nothing else stops it. -/
theorem ends_unless_stopped (packages : Packages) (moment : Moment) (disk : Disk)
    (args : List String) :
    (∀ outcome, run packages moment disk args = .ok outcome →
      outcome.exitCode = 0 ∨
        (∃ given rest settings, Calls packages disk args given rest ∧
          loadSettings packages disk given = .ok settings ∧ EndsAborted moment settings outcome) ∨
        EndsRefused outcome) ∧
    (∀ given rest e, Calls packages disk args given rest →
      loadSettings packages disk given = .error e → e.isRefusal = true →
      run packages moment disk args = .ok (refused disk (.badSettings e.message))) ∧
    (∀ crash, run packages moment disk args = .error crash ↔
      (∃ cause, crash = .path cause ∧ IsBarred packages args cause) ∨
        ∃ given rest, Calls packages disk args given rest ∧
          Stops packages moment disk given rest crash) ∧
    ∀ e, run packages moment disk args = .error (.settings e) →
      Settings.IsNoDocument packages.documents disk e ∨
        Settings.IsEndless packages.documents disk e := by
  have hstops (crash : Crash) : run packages moment disk args = .error crash ↔
      (∃ cause, crash = .path cause ∧ IsBarred packages args cause) ∨
        ∃ given rest, Calls packages disk args given rest ∧
          Stops packages moment disk given rest crash := by
    constructor
    · intro h
      rcases run_cases packages moment disk args with
        ⟨given, rest, hcalls⟩ | hrun | ⟨error, hrun⟩ | ⟨cause, hbarred⟩
      · rw [run_of_calls hcalls] at h
        exact .inr ⟨given, rest, hcalls, runCommand_eq_error_iff.1 h⟩
      · cases hrun.symm.trans h
      · cases hrun.symm.trans h
      · cases (run_of_isBarred hbarred).symm.trans h
        exact .inl ⟨cause, rfl, hbarred⟩
    · rintro (⟨cause, rfl, hbarred⟩ | ⟨given, rest, hcalls, hstops⟩)
      · exact run_of_isBarred hbarred
      · rw [run_of_calls hcalls]
        exact runCommand_eq_error_iff.2 hstops
  refine ⟨fun outcome h ↦ ?_, fun given rest e hcalls hsettings hrefusal ↦ ?_, hstops,
    fun e h ↦ ?_⟩
  · rcases run_cases packages moment disk args with
      ⟨given, rest, hcalls⟩ | hrun | ⟨error, hrun⟩ | ⟨cause, hbarred⟩
    · rw [run_of_calls hcalls] at h
      rcases runCommand_eq_ok h with hcode | ⟨settings, hsettings, haborted⟩ | hrefused
      · exact .inl hcode
      · exact .inr (.inl ⟨given, rest, settings, hcalls, hsettings, haborted⟩)
      · exact .inr (.inr hrefused)
    · cases hrun.symm.trans h
      exact .inl rfl
    · cases hrun.symm.trans h
      exact .inr (.inr (endsRefused_refused disk error))
    · cases (run_of_isBarred hbarred).symm.trans h
  · rw [run_of_calls hcalls]
    simp [runCommand, hsettings, hrefusal]
  · rcases (hstops _).1 h with ⟨_, hpath, -⟩ | ⟨given, rest, -, hsettings, hrefusal⟩
    · cases hpath
    · exact (Settings.isExplained_of_loadOver hsettings).resolve_left (Bool.eq_false_iff.1 hrefusal)

end

/-- A run without its file of settings, and one with a file in the way of its results. -/
theorem ends_unless_stopped_no_settings :
    run .standard ⟨2024, 2, 29, 12, 0, 0⟩ ⟨[], []⟩ ["--config", "my.yml", "parse", "x"] =
      .ok (refused ⟨[], []⟩ (.badSettings "[Errno 2] No such file or directory: 'my.yml'")) ∧
    ∃ (text : String) (outcome : Outcome),
      run .standard ⟨2024, 2, 29, 12, 0, 0⟩ ⟨[(["my.yml"], .file text), (["b"], .file "")], []⟩
        ["--config", "my.yml", "parse", "x"] = .ok outcome ∧
      EndsAborted ⟨2024, 2, 29, 12, 0, 0⟩ ⟨.info, true, "a", "b", [.json], []⟩ outcome := by
  have hgiven : givenFault? "my.yml" = none := by decide +kernel
  constructor
  · have hmessage : (Settings.LoadError.disk ⟨.noEntry, ⟨false, ["my.yml"]⟩⟩).message =
        "[Errno 2] No such file or directory: 'my.yml'" := by decide +kernel
    rw [← hmessage]
    exact (ends_unless_stopped .standard _ _ _).2.1 "my.yml" ["x"] _ (calls_config hgiven rfl _)
      (by decide +kernel) rfl
  · obtain ⟨text, htext⟩ : ∃ text, "log: {level: info, to_file: yes, dir: a}\n" ++
      "output: {base_dir: b, formats: [json]}\n" = text := ⟨_, rfl⟩
    obtain ⟨disk, hdisk⟩ : ∃ disk : Disk,
      disk = ⟨[(["my.yml"], .file text), (["b"], .file "")], []⟩ := ⟨_, rfl⟩
    have hcalls : Calls .standard disk ["--config", "my.yml", "parse", "x"] "my.yml" ["x"] :=
      calls_config hgiven (by subst hdisk; rfl) _
    have hsettings : loadSettings .standard disk "my.yml" =
        .ok ⟨.info, true, "a", "b", [.json], []⟩ := by
      subst htext hdisk
      decide +kernel
    have hcode : (runQueries .standard ⟨2024, 2, 29, 12, 0, 0⟩ disk
        ⟨.info, true, "a", "b", [.json], []⟩ ["x"]).toOption.map (·.exitCode) = some 1 := by
      subst htext hdisk
      decide +kernel
    rw [← run_eq_runQueries hcalls rfl hsettings] at hcode
    obtain ⟨outcome, hrun, hone⟩ := exists_eq_ok_of_toOption hcode
    refine ⟨text, outcome, hdisk ▸ hrun, ?_⟩
    rcases (ends_unless_stopped .standard _ _ _).1 outcome hrun with
      hzero | ⟨given, rest, settings, ⟨-, -, -, _, rfl, hoptions⟩, hload, haborted⟩ | ⟨htwo, -⟩
    · omega
    · cases hoptions
      cases hload.symm.trans hsettings
      exact haborted
    · omega

/-- What stops runs: a list that is not closed, two documents that hold themselves along the same keys,
and a file in the way of the run file. -/
theorem stopped_by_open_list :
    run .standard ⟨2009, 1, 15, 12, 34, 56⟩ ⟨[(["my.yml"], .file "log: [\n")], []⟩
      ["--config", "my.yml", "parse", "x"] = .error (.settings (.document .malformed)) ∧
    (∃ text : String,
      run .standard ⟨2009, 1, 15, 12, 34, 56⟩ ⟨[(["my.yml"], .file text), (["config"], .directory),
          (["config", "default.yml"], .file text)], []⟩ ["--config", "my.yml", "parse", "x"] =
        .error (.settings .endless)) ∧
    ∃ text : String,
      run .standard ⟨2009, 1, 15, 12, 34, 56⟩ ⟨[(["my.yml"], .file text), (["a"], .file "")], []⟩
        ["--config", "my.yml", "parse", "x"] =
          .error (.disk ⟨.notDirectory, ⟨false, ["a", "parse"]⟩⟩) := by
  have hgiven : givenFault? "my.yml" = none := by decide +kernel
  refine ⟨(run_of_calls (calls_config hgiven rfl ["x"])).trans (runCommand_eq_error_iff.2 ?_),
    ⟨"log: &a {a: *a}\n",
      (run_of_calls (calls_config hgiven rfl ["x"])).trans (runCommand_eq_error_iff.2 ?_)⟩,
    "log: {level: info, to_file: yes, dir: a}\n" ++ "output: {base_dir: b, formats: [json]}\n",
    (run_of_calls (calls_config hgiven rfl ["x"])).trans (runCommand_eq_error_iff.2 ?_)⟩
  · exact ⟨by decide +kernel, rfl⟩
  · exact ⟨by decide +kernel, rfl⟩
  · exact ⟨⟨.info, true, "a", "b", [.json], []⟩, ["x"], _, by decide +kernel, rfl, rfl, rfl⟩

end CommandLine
end SearchFilter
