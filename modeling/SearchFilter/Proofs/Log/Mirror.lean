import SearchFilter.Proofs.Log.Session

/-!
# What a run file keeps of a run

A run file mirrors what a logger is sent, whatever of it the console is to show.  One level name is
different.  It stands for rank zero, with which a logger has no threshold of its own, and then the
surroundings keep the lesser records from both.

* `Log.Logger.linesFrom` are the lines of the records from a rank on, `Log.Logger.withBytes` the records
  whose lines a file can take.
* `Log.Logger.shownFrom` is what is shown of records, with the reports of those that no file can take;
  `Log.Logger.shownFrom_of_isEncodable`: without such records it is the lines from a rank on.
* `Log.Logger.Session.shown` is what is shown of some steps.
* `Log.Logger.Session.shown_logAll` and `Log.Logger.Session.nodeAt_after_logAll`: where a run of
  records goes.
* `Log.Logger.run_file_mirrors_records`: what the run file and the console get after a set-up.
* `Log.Logger.unset_level_loses_records`: records that neither gets.
-/

set_option autoImplicit false

namespace SearchFilter
namespace Log
namespace Logger

/-- The lines of the records from a rank on. -/
def linesFrom (rank : Int) (entries : List (Moment × Record)) : String :=
  String.join ((entries.filter (rank ≤ ·.2.rank)).map fun entry ↦ formatted entry.1 entry.2)

theorem linesFrom_cons (rank : Int) (moment : Moment) (record : Record)
    (entries : List (Moment × Record)) :
    linesFrom rank ((moment, record) :: entries) =
      (if rank ≤ record.rank then formatted moment record else "") ++ linesFrom rank entries := by
  by_cases h : rank ≤ record.rank <;> simp [linesFrom, h]

section

variable [Surroundings]

/-- The records whose lines have bytes. -/
def withBytes (entries : List (Moment × Record)) : List (Moment × Record) :=
  entries.filter fun entry ↦ Text.isEncodable (formatted entry.1 entry.2)

theorem withBytes_eq_self {entries : List (Moment × Record)}
    (h : ∀ entry ∈ entries, Text.isEncodable (formatted entry.1 entry.2) = true) :
    withBytes entries = entries :=
  List.filter_eq_self.2 h

theorem linesFrom_withBytes_cons (rank : Int) (moment : Moment) (record : Record)
    (entries : List (Moment × Record)) :
    linesFrom rank (withBytes ((moment, record) :: entries)) =
      (if rank ≤ record.rank ∧ Text.isEncodable (formatted moment record) then
        formatted moment record else "") ++ linesFrom rank (withBytes entries) := by
  by_cases hbytes : Text.isEncodable (formatted moment record) = true
  · simp [withBytes, hbytes, linesFrom_cons]
  · simp [withBytes, hbytes]

/-- What is shown of a line of some rank, where lines count from one rank on and are shown from another
one on: the line, and where there is a run file that cannot take it the report of that. -/
def shownOf (least rank : Int) (toFile : Bool) (lineRank : Int) (line : String) : String :=
  if least ≤ lineRank then
    (if rank ≤ lineRank then line else "") ++
      if Text.isEncodable line || !toFile then "" else Surroundings.report line
  else ""

theorem shownOf_of_isEncodable (least rank : Int) (toFile : Bool) (lineRank : Int) {line : String}
    (h : Text.isEncodable line = true) :
    shownOf least rank toFile lineRank line = if max least rank ≤ lineRank then line else "" := by
  simp only [shownOf, h, Bool.true_or, if_true, String.append_empty, Int.max_le, ite_and]

/-- What is shown of records. -/
def shownFrom (least rank : Int) (toFile : Bool) (entries : List (Moment × Record)) : String :=
  String.join (entries.map fun entry ↦
    shownOf least rank toFile entry.2.rank (formatted entry.1 entry.2))

theorem shownFrom_cons (least rank : Int) (toFile : Bool) (moment : Moment) (record : Record)
    (entries : List (Moment × Record)) :
    shownFrom least rank toFile ((moment, record) :: entries) =
      shownOf least rank toFile record.rank (formatted moment record) ++
        shownFrom least rank toFile entries := by
  simp [shownFrom]

/-- **Where all lines have bytes, lines are all that is shown.** -/
theorem shownFrom_of_isEncodable (least rank : Int) (toFile : Bool) {entries : List (Moment × Record)}
    (h : ∀ entry ∈ entries, Text.isEncodable (formatted entry.1 entry.2) = true) :
    shownFrom least rank toFile entries = linesFrom (max least rank) entries := by
  induction entries with
  | nil => rfl
  | cons entry entries ih =>
    obtain ⟨moment, record⟩ := entry
    obtain ⟨hline, hrest⟩ := List.forall_mem_cons.1 h
    rw [shownFrom_cons, linesFrom_cons, ih hrest, shownOf_of_isEncodable _ _ _ _ hline]

namespace Session

/-- What is shown of some steps, one after another.  Nothing is shown of a set-up. -/
def shown (session : Session) : List Step → String
  | [] => ""
  | step :: steps => (session.step step).1.toOption.getD "" ++ (session.step step).2.shown steps

/-- Records, each sent at its moment. -/
def logAll (entries : List (Moment × Record)) : List Step :=
  entries.map fun entry ↦ .log entry.1 entry.2

variable {session : Session} {setUp : Moment} {options : Options}

/-! ## One record -/

/-- A record that counts goes to the console if its rank is high enough, and to the files if its line
has bytes. -/
theorem step_log_eq_ite (h : session.logger.Obeys setUp options session.disk) (moment : Moment)
    (record : Record) :
    session.step (.log moment record) =
      (.ok (if options.leastRank ≤ record.rank then
          (if rankOfName options.level ≤ record.rank then formatted moment record else "") ++
            reported session.logger.places (formatted moment record)
        else ""),
        { session with
          disk := if options.leastRank ≤ record.rank then
              mirrored session.logger.places (formatted moment record) session.disk
            else session.disk }) := by
  rw [step, h.emitOne_eq_ite]
  by_cases hleast : options.leastRank ≤ record.rank
  · simp only [if_neg (Int.not_lt.2 hleast), if_pos hleast]
  · simp only [if_pos (Int.not_le.1 hleast), if_neg hleast]

/-- A record does not keep a logger from what it was told. -/
theorem obeys_step_log (h : session.logger.Obeys setUp options session.disk) (moment : Moment)
    (record : Record) :
    (session.step (.log moment record)).2.logger.Obeys setUp options
      (session.step (.log moment record)).2.disk :=
  h.of_keepsAllBut (session.logger.keepsAllBut_emitOne moment session.disk record)
    fun _ hfile ↦ session.logger.hasFile_emitOne moment record hfile

/-- **The run file gets a record** that counts and whose line has bytes, and nothing else on the disk
changes. -/
theorem nodeAt_step_log (h : session.logger.Obeys setUp options session.disk) {place : Place}
    (hplaces : session.logger.places = [place]) {before : Disk.Contents}
    (hnode : session.disk.nodeAt place = some (.file before)) (moment : Moment) (record : Record)
    (other : Place) :
    (session.step (.log moment record)).2.disk.nodeAt other =
      if other = place then
        some (.file (before.extend
          (if options.leastRank ≤ record.rank ∧ Text.isEncodable (formatted moment record) then
            formatted moment record else "")))
      else session.disk.nodeAt other := by
  have hsame : session.disk.nodeAt other =
      if other = place then some (.file before) else session.disk.nodeAt other := by
    split
    next heq => rw [heq, hnode]
    next => rfl
  rw [step_log_eq_ite h, hplaces]
  by_cases hleast : options.leastRank ≤ record.rank
  · by_cases hbytes : Text.isEncodable (formatted moment record) = true
    · simp only [hleast, hbytes, mirrored, if_true, List.foldl_cons, List.foldl_nil, and_self]
      exact Disk.nodeAt_extend hnode _ other
    · simp only [hleast, hbytes, mirrored, if_true, Bool.false_eq_true, if_false, and_false,
        Disk.Contents.extend_empty]
      exact hsame
  · simp only [hleast, if_false, false_and, Disk.Contents.extend_empty]
    exact hsame

/-! ## A run of records -/

/-- **What is shown of records.** -/
theorem shown_logAll (h : session.logger.Obeys setUp options session.disk)
    (entries : List (Moment × Record)) :
    session.shown (logAll entries) =
      shownFrom options.leastRank (rankOfName options.level) (options.runPath? setUp).isSome
        entries := by
  induction entries generalizing session with
  | nil => rfl
  | cons entry entries ih =>
    obtain ⟨moment, record⟩ := entry
    have hnext := ih (obeys_step_log h moment record)
    rw [shownFrom_cons, ← hnext, shownOf, Option.not_isSome, ← h.reported_eq]
    simp only [logAll, List.map_cons, shown, step_log_eq_ite h]
    rfl

/-- **The run file gets the records** that count and whose lines have bytes, in order, and nothing else
on the disk changes. -/
theorem nodeAt_after_logAll (h : session.logger.Obeys setUp options session.disk) {place : Place}
    (hplaces : session.logger.places = [place]) {before : Disk.Contents}
    (hnode : session.disk.nodeAt place = some (.file before)) (entries : List (Moment × Record))
    (other : Place) :
    (session.after (logAll entries)).disk.nodeAt other =
      if other = place then
        some (.file (before.extend (linesFrom options.leastRank (withBytes entries))))
      else session.disk.nodeAt other := by
  induction entries generalizing session before with
  | nil =>
    have hnil : before.extend (linesFrom options.leastRank (withBytes [])) = before :=
      before.extend_empty
    rw [hnil]
    split
    next heq => rw [heq]; exact hnode
    next => rfl
  | cons entry entries ih =>
    obtain ⟨moment, record⟩ := entry
    have hstep := nodeAt_step_log h hplaces hnode moment record
    have hrest := ih (obeys_step_log h moment record) hplaces ((hstep place).trans (if_pos rfl))
    rw [linesFrom_withBytes_cons, Disk.Contents.extend_append]
    refine hrest.trans ?_
    split
    next => rfl
    next hne => rw [hstep, if_neg hne]

/-- Records without a run file change nothing on the disk. -/
theorem disk_after_logAll (h : session.logger.Obeys setUp options session.disk)
    (hplaces : session.logger.places = []) (entries : List (Moment × Record)) :
    (session.after (logAll entries)).disk = session.disk := by
  induction entries generalizing session with
  | nil => rfl
  | cons entry entries ih =>
    obtain ⟨moment, record⟩ := entry
    have hdisk : (session.step (.log moment record)).2.disk = session.disk := by
      simp only [step_log_eq_ite h, hplaces, mirrored, List.foldl_nil, ite_self]
    exact (ih (obeys_step_log h moment record) hplaces).trans hdisk

end Session

open Session in
/-- **A run file mirrors what its logger is sent**, after a set-up that succeeded and with any action
and level name.  It gets every record for debugging or above whose line has bytes, each as one line
and in order, and nothing else on the disk changes; the console shows those whose rank is at least
that of the name.  Beside the lines only those are reported that the run file cannot take.  Without
the name of an action there is no run file.  The level name of rank zero is different: the
surroundings keep from both the records below a warning. -/
theorem run_file_mirrors_records {session next : Session} {setUp : Moment} {level dir said : String}
    {action : Option String}
    (hsetUp : session.step (.configure setUp ⟨level, action, true, dir⟩) = (.ok said, next))
    (entries : List (Moment × Record)) :
    let named := String.ofList (Unicode.upper level.toList)
    let least := if named = "NOTSET" then Level.warning.rank else Level.debug.rank
    next.shown (logAll entries) =
      shownFrom least (rankOfName level) (action.any (!·.isEmpty)) entries ∧
    ((∀ entry ∈ entries, Text.isEncodable (formatted entry.1 entry.2) = true) →
      next.shown (logAll entries) = linesFrom (max least (rankOfName level)) entries ∧
      withBytes entries = entries) ∧
    (∀ name, action = some name → name ≠ "" → ∃ place before,
      next.disk.locate (runPath setUp dir name) = .ok place ∧
      next.disk.nodeAt place = some (.file before) ∧
      ∀ other, (next.after (logAll entries)).disk.nodeAt other =
        if other = place then some (.file (before.extend (linesFrom least (withBytes entries))))
        else next.disk.nodeAt other) ∧
    (action.getD "" = "" → (next.after (logAll entries)).disk = next.disk) ∧
    ((∀ entry ∈ entries, Level.debug.rank ≤ entry.2.rank) →
      linesFrom Level.debug.rank entries =
        String.join (entries.map fun entry ↦ formatted entry.1 entry.2)) ∧
    ((∃ entry ∈ rankNames, named = entry.1 ∧ rankOfName level = entry.2) ∨
      (∀ entry ∈ rankNames, named ≠ entry.1) ∧ rankOfName level = Level.info.rank) := by
  intro named least
  have hobeys := (configure_eq_ok (step_configure_eq_ok hsetUp).1).1
  have hleast : Options.leastRank ⟨level, action, true, dir⟩ = least := by
    simp only [least, named, Options.leastRank, rankOfName_eq_zero_iff]
    rfl
  have hshown : next.shown (logAll entries) =
      shownFrom least (rankOfName level) (action.any (!·.isEmpty)) entries := by
    rw [shown_logAll hobeys, hleast, Options.runPath?, Option.isSome_map,
      Options.isSome_runAction?, Bool.true_and]
  refine ⟨hshown, fun hbytes ↦ ⟨?_, withBytes_eq_self hbytes⟩, fun name haction hname ↦ ?_,
    fun haction ↦ ?_, fun hranks ↦ ?_, rankOfName_cases level⟩
  · rw [hshown, shownFrom_of_isEncodable _ _ _ hbytes]
  · have hpath : Options.runPath? ⟨level, action, true, dir⟩ setUp = some (runPath setUp dir name) := by
      simp [Options.runPath?, Options.runAction?, haction, hname]
    rcases hobeys.places_cases with ⟨hnone, -⟩ | ⟨path, place, hsome, hplaces, hlocate, before, hnode⟩
    · exact absurd (hpath.symm.trans hnone) (Option.some_ne_none _)
    · obtain rfl : path = runPath setUp dir name := Option.some.inj (hsome.symm.trans hpath)
      refine ⟨place, before, hlocate, hnode, fun other ↦ ?_⟩
      rw [nodeAt_after_logAll hobeys hplaces hnode, hleast]
  · have hpath : Options.runPath? ⟨level, action, true, dir⟩ setUp = none := by
      cases action with
      | none => rfl
      | some name => simp [Options.runPath?, Options.runAction?, show name = "" from haction]
    rcases hobeys.places_cases with ⟨-, hplaces⟩ | ⟨path, place, hsome, -⟩
    · exact disk_after_logAll hobeys hplaces entries
    · exact absurd (hsome.symm.trans hpath) (Option.some_ne_none _)
  · have hall : entries.filter (Level.debug.rank ≤ ·.2.rank) = entries :=
      List.filter_eq_self.2 fun entry hentry ↦ decide_eq_true (hranks entry hentry)
    rw [linesFrom, hall]

end

/-- At the name of a known level in small letters, after an earlier set-up, and for records of three
levels. -/
theorem run_file_mirrors_records_warning :
    ∃ session next place before,
      session = (Session.start ⟨[], []⟩).after
        [.configure ⟨2009, 1, 15, 12, 34, 56⟩ ⟨"DEBUG", some "parse", true, "log"⟩,
          .log ⟨2009, 1, 15, 12, 34, 56⟩ ⟨Level.debug.rank, "a"⟩] ∧
      session.step (.configure ⟨2009, 1, 15, 12, 34, 56⟩ ⟨"warning", some "parse", true, "log"⟩) =
        (.ok "", next) ∧
      next.disk.locate ⟨false, ["log", "parse", "parse_0115123456.log"]⟩ = .ok place ∧
      next.disk.nodeAt place = some (.file before) ∧
      (next.after (Session.logAll [(⟨2009, 1, 15, 12, 34, 57⟩, ⟨Level.debug.rank, "b"⟩),
          (⟨2009, 1, 15, 12, 34, 58⟩, ⟨Level.error.rank, "c"⟩)])).disk.nodeAt place =
        some (.file (before.extend "01-15 12:34:57 [DEBG] b\n01-15 12:34:58 [ERRO] c\n")) ∧
      next.shown (Session.logAll [(⟨2009, 1, 15, 12, 34, 57⟩, ⟨Level.debug.rank, "b"⟩),
          (⟨2009, 1, 15, 12, 34, 58⟩, ⟨Level.error.rank, "c"⟩)]) = "01-15 12:34:58 [ERRO] c\n" := by
  obtain ⟨next, hsetUp⟩ : ∃ next, ((Session.start ⟨[], []⟩).after
      [.configure ⟨2009, 1, 15, 12, 34, 56⟩ ⟨"DEBUG", some "parse", true, "log"⟩,
        .log ⟨2009, 1, 15, 12, 34, 56⟩ ⟨Level.debug.rank, "a"⟩]).step
      (.configure ⟨2009, 1, 15, 12, 34, 56⟩ ⟨"warning", some "parse", true, "log"⟩) =
        (.ok "", next) := ⟨_, rfl⟩
  obtain ⟨hshown, -, hfile, -⟩ := run_file_mirrors_records hsetUp
    [(⟨2009, 1, 15, 12, 34, 57⟩, ⟨Level.debug.rank, "b"⟩),
      (⟨2009, 1, 15, 12, 34, 58⟩, ⟨Level.error.rank, "c"⟩)]
  obtain ⟨place, before, hlocate, hnode, hafter⟩ := hfile "parse" rfl (by decide)
  refine ⟨_, next, place, before, rfl, hsetUp, hlocate, hnode, ?_, ?_⟩
  · rw [hafter, if_pos rfl]
    exact congrArg (fun text ↦ some (Disk.Node.file (before.extend text))) (by decide +kernel)
  · rw [hshown]
    decide +kernel

/-- With the name of rank zero neither the run file nor the console gets a record of information. -/
theorem unset_level_loses_records :
    ∃ next place,
      (Session.start ⟨[], []⟩).step
        (.configure ⟨2009, 1, 15, 12, 34, 56⟩ ⟨"NOTSET", some "parse", true, "log"⟩) =
          (.ok "", next) ∧
      next.disk.locate ⟨false, ["log", "parse", "parse_0115123456.log"]⟩ = .ok place ∧
      rankOfName "NOTSET" ≤ Level.info.rank ∧
      next.shown (Session.logAll [(⟨2009, 1, 15, 12, 34, 57⟩, ⟨Level.info.rank, "a"⟩)]) = "" ∧
      (next.after (Session.logAll
        [(⟨2009, 1, 15, 12, 34, 57⟩, ⟨Level.info.rank, "a"⟩)])).disk.nodeAt place =
          some (.file "") := by
  refine ⟨_, (["log", "parse", "parse_0115123456.log"]), rfl, ?_⟩
  decide +kernel

end Logger
end Log
end SearchFilter
