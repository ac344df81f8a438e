import SearchFilter.Proofs.CommandLine.Run
import SearchFilter.Proofs.Settings.Load

/-!
# Runs write all results or none

A run that ends well has written the results of all its queries to one file, if they go to a file; any
other run has written none of them.  Besides, only the run file can change.  One thing is different: a
query that has no bytes leaves the file of results empty.

* `CommandLine.runLogged_results`: a run of queries once the log is set up.
* `CommandLine.all_results_or_none`: a run of the command with settings that can be loaded.
* `CommandLine.query_without_bytes_empties_results`: a run that leaves an empty file.
-/

set_option autoImplicit false

namespace SearchFilter
namespace CommandLine

open Log

section

variable [Surroundings] {packages : Packages} {moment : Moment} {disk : Disk}
  {args rest queries : List String} {given : String} {settings : Settings} {logger : Logger}

/-- A run of queries ends well, or aborted if results go to a file.  In the first case it has written
all results if they go to a file, in the second none; but then it can have left the file empty, if a
query has no bytes. -/
theorem runLogged_results (h : logger.Obeys moment (logOptions settings) disk)
    (hformats : settings.formats ≠ []) :
    ∃ outcome, runLogged packages logger moment disk settings queries = outcome ∧
      (outcome.exitCode = 0 ∨ outcome.exitCode = 1 ∧ .json ∈ settings.formats) ∧
      (∃ places, disk.KeepsAllBut places outcome.disk) ∧
      if outcome.exitCode = 0 ∧ .json ∈ settings.formats then
        (∀ query ∈ queries, Text.isEncodable query = true) ∧
          HoldsResults packages.dates moment settings queries logger.places disk outcome.disk
      else
        disk.KeepsAllBut logger.places outcome.disk ∨
          outcome.exitCode = 1 ∧ (∃ query ∈ queries, Text.isEncodable query = false) ∧
            LeavesResults moment settings "" logger.places disk outcome.disk := by
  rcases runLogged_cases h with ⟨left, shown, message, hrun, -, hjson, hleft⟩ |
    ⟨outcome, hrun, hcode, hwritten⟩ <;> rw [hrun]
  · have hcode : (aborted logger moment left shown message).exitCode = 1 := rfl
    have hkeeps := keepsAllBut_aborted logger moment left shown message
    refine ⟨_, rfl, .inr ⟨hcode, hjson.resolve_left hformats⟩, ?_⟩
    rw [if_neg fun hzero ↦ absurd (hcode.symm.trans hzero.1) Nat.one_ne_zero]
    rcases hleft with hleft | ⟨hnone, hleft⟩
    · exact ⟨⟨_, hleft.trans hkeeps⟩, .inl (hleft.trans hkeeps)⟩
    · have hempty := hleft.trans_keepsAllBut hkeeps
      exact ⟨hempty.exists_keepsAllBut, .inr ⟨hcode, hnone, hempty⟩⟩
  · refine ⟨outcome, rfl, .inl hcode, ?_⟩
    by_cases hjson : .json ∈ settings.formats
    · rw [if_pos hjson] at hwritten
      obtain ⟨_, _, hleaves, -⟩ := hwritten.2
      exact ⟨hleaves.exists_keepsAllBut, by rwa [if_pos ⟨hcode, hjson⟩]⟩
    · rw [if_neg hjson] at hwritten
      exact ⟨⟨_, hwritten⟩, by rw [if_neg fun h ↦ hjson h.2]; exact .inl hwritten⟩

/-- **A run writes all results or none**, as long as all queries have bytes.  Take settings that can
be loaded, and some queries as arguments.  Where the run file cannot be opened no file changes.  Else
the run ends: without any query, given or in the settings, by a refusal; with queries, in good order,
or aborted if results go to a file.  In good order, and if results go to a file, all queries have
bytes, and one file has a record of each, in their order, with its text and the items of its
conditions.  In any other case no file changes but the run file, which is there only if it is asked
for; or some query has no bytes, the run is aborted, and besides the run file only the file of results
changes, which is left empty. -/
theorem all_results_or_none (hcalls : Calls packages disk args given rest)
    (hqueries : packages.arguments rest = .ok ⟨false, queries⟩)
    (hsettings : loadSettings packages disk given = .ok settings) (moment : Moment) :
    (∀ e left, (Logger.configure moment (logOptions settings)).run.run disk = (.error e, left) →
      run packages moment disk args = .error (.disk e) ∧ disk.KeepsAllBut [] left) ∧
    ∀ logger ready,
      (Logger.configure moment (logOptions settings)).run.run disk = (.ok logger, ready) →
      let selected := selectQueries settings queries
      ∃ outcome, run packages moment disk args = .ok outcome ∧
        (∀ place ∈ logger.places, settings.toFile = true ∧ place.getLast? = some (logName moment) ∧
          outcome.disk.locate (Logger.runPath moment settings.logDir parseCommand) = .ok place) ∧
        (if selected = [] then outcome.exitCode = 2
          else outcome.exitCode = 0 ∨ outcome.exitCode = 1 ∧ .json ∈ settings.formats) ∧
        if outcome.exitCode = 0 ∧ .json ∈ settings.formats then
          (∀ query ∈ selected, Text.isEncodable query = true) ∧
            HoldsResults packages.dates moment settings selected logger.places disk outcome.disk
        else
          disk.KeepsAllBut logger.places outcome.disk ∨
            outcome.exitCode = 1 ∧ (∃ query ∈ selected, Text.isEncodable query = false) ∧
              LeavesResults moment settings "" logger.places disk outcome.disk := by
  rw [run_eq_runQueries hcalls hqueries hsettings]
  refine ⟨fun e left hset ↦ ⟨?_, (Logger.configure_eq_error hset).1⟩, fun logger ready hset ↦ ?_⟩
  · rw [runQueries, hset]
  · obtain ⟨hobeys, hkeeps⟩ := Logger.configure_eq_ok hset
    rw [runQueries_of_configure_eq_ok hset]
    dsimp only
    split_ifs with hnone
    · exact ⟨_, rfl, fun _ ↦ of_mem_places hobeys (.refl [] ready), rfl, .inl hkeeps⟩
    · obtain ⟨outcome, hrun, hcode, ⟨places, hplaces⟩, hwritten⟩ :=
        runLogged_results hobeys (Settings.formats_ne_nil_of_loadOver hsettings)
      rw [hrun]
      refine ⟨outcome, rfl, fun _ ↦ of_mem_places hobeys hplaces, hcode, ?_⟩
      split_ifs at hwritten ⊢
      · obtain ⟨hall, text, documents, hleaves, hread⟩ := hwritten
        exact ⟨hall, text, documents, hleaves.of_keepsAllBut hkeeps, hread⟩
      · rcases hwritten with hkept | ⟨hone, hbytes, hleaves⟩
        · exact .inl (hkeeps.trans hkept)
        · exact .inr ⟨hone, hbytes, hleaves.of_keepsAllBut hkeeps⟩

end

/-- Two queries, one of which looks like an option. -/
theorem all_results_or_none_two_queries :
    ∃ (text : String) (disk : Disk) (outcome : Outcome),
      disk = ⟨[(["my.yml"], .file text)], []⟩ ∧
      run .standard ⟨2024, 2, 29, 12, 0, 0⟩ disk
        ["--config", "my.yml", "parse", "--", "a -b", "-c"] = .ok outcome ∧
      outcome.exitCode = 0 ∧
      HoldsResults .written ⟨2024, 2, 29, 12, 0, 0⟩ ⟨.info, true, "a", "b", [.json], []⟩
        ["a -b", "-c"] [["a", "parse", "parse_0229120000.log"]] disk outcome.disk := by
  obtain ⟨text, htext⟩ : ∃ text, "log: {level: info, to_file: yes, dir: a}\n" ++
    "output: {base_dir: b, formats: [json]}\n" = text := ⟨_, rfl⟩
  obtain ⟨disk, hdisk⟩ : ∃ disk : Disk, disk = ⟨[(["my.yml"], .file text)], []⟩ := ⟨_, rfl⟩
  have hcalls : Calls .standard disk _ "my.yml" ["--", "a -b", "-c"] :=
    calls_config (by decide +kernel) (by subst hdisk; rfl) _
  have hqueries := readQueries_hyphens ["a -b", "-c"]
  have hsettings : loadSettings .standard disk "my.yml" =
      .ok ⟨.info, true, "a", "b", [.json], []⟩ := by
    subst htext hdisk
    decide +kernel
  have hplaces : ((Logger.configure ⟨2024, 2, 29, 12, 0, 0⟩
      (logOptions ⟨.info, true, "a", "b", [.json], []⟩)).run.run disk).1.toOption.map
        Logger.places = some [["a", "parse", "parse_0229120000.log"]] := by
    subst htext hdisk
    decide +kernel
  have hcode : (runQueries .standard ⟨2024, 2, 29, 12, 0, 0⟩ disk
      ⟨.info, true, "a", "b", [.json], []⟩ ["a -b", "-c"]).toOption.map (·.exitCode) = some 0 := by
    subst htext hdisk
    decide +kernel
  rcases hset : (Logger.configure ⟨2024, 2, 29, 12, 0, 0⟩
    (logOptions ⟨.info, true, "a", "b", [.json], []⟩)).run.run disk with ⟨_ | logger, ready⟩ <;>
    rw [hset] at hplaces
  · cases hplaces
  · obtain ⟨outcome, hrun, -, -, hwritten⟩ :=
      (all_results_or_none hcalls hqueries hsettings _).2 logger ready hset
    rw [← run_eq_runQueries hcalls hqueries hsettings, hrun] at hcode
    have hzero : outcome.exitCode = 0 := Option.some.inj hcode
    have hlogs : logger.places = [["a", "parse", "parse_0229120000.log"]] :=
      Option.some.inj hplaces
    rw [if_pos ⟨hzero, List.mem_singleton.2 rfl⟩, hlogs] at hwritten
    exact ⟨text, disk, outcome, hdisk, hrun, hzero, hwritten.2⟩

/-- Settings of ASCII characters can ask for a query with a surrogate in it.  The run is aborted, but it
has left a file of results, with nothing in it. -/
theorem query_without_bytes_empties_results :
    ∃ (text : String) (disk : Disk) (outcome : Outcome),
      disk = ⟨[(["my.yml"], .file text)], []⟩ ∧
      text.toList.all (·.toNat < 128) = true ∧
      run .standard ⟨2009, 1, 15, 12, 34, 56⟩ disk ["--config", "my.yml", "parse"] = .ok outcome ∧
      outcome.exitCode = 1 ∧
      disk.nodeAt ["out", "json", "parse_20090115_123456.json"] = none ∧
      outcome.disk.nodeAt ["out", "json", "parse_20090115_123456.json"] = some (.file "") := by
  obtain ⟨text, htext⟩ : ∃ text, "log: {level: INFO, to_file: false, dir: log}\n" ++
    "output: {base_dir: out, formats: [json]}\n" ++ "queries: [\"a\\ud800\"]\n" = text := ⟨_, rfl⟩
  have hends : ((run .standard ⟨2009, 1, 15, 12, 34, 56⟩ ⟨[(["my.yml"], .file text)], []⟩
      ["--config", "my.yml", "parse"]).toOption.map fun outcome ↦
        (outcome.exitCode, outcome.disk.nodeAt ["out", "json", "parse_20090115_123456.json"])) =
      some (1, some (.file "")) := by
    subst htext
    decide +kernel
  obtain ⟨outcome, hrun, hends⟩ := exists_eq_ok_of_toOption hends
  obtain ⟨hcode, hnode⟩ := Prod.mk.inj hends
  refine ⟨text, _, outcome, rfl, ?_, hrun, hcode, rfl, hnode⟩
  subst htext
  decide +kernel

end CommandLine
end SearchFilter
