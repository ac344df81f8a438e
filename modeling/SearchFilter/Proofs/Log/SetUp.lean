import Mathlib.Data.List.Forall2
import SearchFilter.Proofs.Log.Files

/-!
# Loggers that do as they are told

What a set-up makes of a logger, and where its records go from then on.

* `Log.Logger.rankOfName_cases`: which rank a name stands for.
* `Log.Logger.Options.runPath?` is the path of the run file that is asked for, if one is, and
  `Log.Logger.Options.leastRank` the least rank of the records that count.
* `Log.Logger.Obeys` says that a logger does as it was told; `Log.Logger.configure_eq_ok` that a set-up
  that succeeds makes it do so, `Log.Logger.configure_eq_error` that one that fails changes no file.
* `Log.Logger.Obeys.emitOne_eq_ite`: one record that counts goes to the console if its rank is high
  enough, and to the run file if its line has bytes.
-/

set_option autoImplicit false

namespace SearchFilter
namespace Log

/-! ## Ranks -/

theorem Level.debug_rank_le (level : Level) : Level.debug.rank ≤ level.rank := by
  cases level <;> decide

theorem Level.rank_ne_zero (level : Level) : level.rank ≠ 0 := by
  cases level <;> decide

namespace Logger

/-- **A name stands for the rank that it has in the list**, in capitals, and an unknown name for that of
information. -/
theorem rankOfName_cases (name : String) :
    (∃ entry ∈ rankNames, String.ofList (Unicode.upper name.toList) = entry.1 ∧
      rankOfName name = entry.2) ∨
    (∀ entry ∈ rankNames, String.ofList (Unicode.upper name.toList) ≠ entry.1) ∧
      rankOfName name = Level.info.rank := by
  rw [rankOfName]
  cases hlookup : rankNames.lookup (String.ofList (Unicode.upper name.toList)) with
  | none =>
    refine .inr ⟨fun entry hentry heq ↦ ?_, rfl⟩
    have hne := List.lookup_eq_none_iff.1 hlookup entry hentry
    rw [heq] at hne
    exact bne_iff_ne.1 hne rfl
  | some rank =>
    obtain ⟨before, after, hsplit, -⟩ := List.lookup_eq_some_iff.1 hlookup
    exact .inl ⟨_, hsplit ▸ List.mem_append_right before List.mem_cons_self, rfl, rfl⟩

/-- A name stands for no rank between zero and that of the least level. -/
theorem rankOfName_eq_zero_or_le (name : String) :
    rankOfName name = 0 ∨ Level.debug.rank ≤ rankOfName name := by
  have hall : ∀ entry ∈ rankNames, entry.2 = 0 ∨ Level.debug.rank ≤ entry.2 := by decide
  rcases rankOfName_cases name with ⟨entry, hentry, -, hrank⟩ | ⟨-, hrank⟩
  · rw [hrank]
    exact hall entry hentry
  · rw [hrank]
    exact .inr (Level.debug_rank_le .info)

/-- Only one name stands for rank zero. -/
theorem rankOfName_eq_zero_iff {name : String} :
    rankOfName name = 0 ↔ String.ofList (Unicode.upper name.toList) = "NOTSET" := by
  constructor
  · intro hzero
    have hall : ∀ entry ∈ rankNames, entry.2 = 0 → entry.1 = "NOTSET" := by decide
    rcases rankOfName_cases name with ⟨entry, hentry, hname, hrank⟩ | ⟨-, hrank⟩
    · exact hname.trans (hall entry hentry (hrank.symm.trans hzero))
    · exact absurd (hrank.symm.trans hzero) (Level.rank_ne_zero .info)
  · intro hname
    rw [rankOfName, hname]
    rfl

/-- The name of a level stands for its rank. -/
theorem rankOfName_name (level : Level) : rankOfName level.name = level.rank := by
  cases level <;> decide

/-! ## The run file -/

/-- The path of the run file of an action. -/
def runPath (moment : Moment) (dir action : String) : Path :=
  ((Path.ofString dir).child action).child s!"{action}_{moment.runStamp}.log"

/-- The path of the run file that a logger is told to write, if it is told to write one. -/
def Options.runPath? (options : Options) (moment : Moment) : Option Path :=
  options.runAction?.map (runPath moment options.dir)

/-- The least rank of the records that count for a logger that was told so. -/
def Options.leastRank (options : Options) : Int :=
  if rankOfName options.level = 0 then surroundingRank else Level.debug.rank

/-- No record below the least level counts. -/
theorem Options.debug_rank_le_leastRank (options : Options) :
    Level.debug.rank ≤ options.leastRank := by
  rw [leastRank]
  split <;> decide

theorem Options.isSome_runAction? (options : Options) :
    options.runAction?.isSome = (options.toFile && options.action.any (!·.isEmpty)) := by
  rw [runAction?]
  cases options.toFile <;> cases options.action <;> simp [Option.filter]
  split <;> simp_all

variable [Surroundings] {moment : Moment} {options : Options} {disk disk' : Disk} {logger : Logger}

/-- A run file that could be opened is there, and no other file has changed. -/
theorem openRunFile_eq_ok {dir action : String} {place : Place}
    (h : (openRunFile moment dir action).run.run disk = (.ok place, disk')) :
    disk'.locate (runPath moment dir action) = .ok place ∧
      disk'.HasFile place ∧ disk.KeepsAllBut [place] disk' := by
  obtain ⟨_, middle, hmake, hopen⟩ := Disk.run_bind_eq_ok h
  have hdirs := Disk.keepsAllBut_makeDirs ((Path.ofString dir).child action) disk
  rw [hmake] at hdirs
  obtain ⟨hlocate, hfile, hkeeps⟩ := Disk.openEnd_eq_ok hopen
  exact ⟨hlocate, hfile, (hdirs.mono (List.nil_subset _)).trans hkeeps⟩

/-- A run file that could not be opened is not made, but directories can be. -/
theorem openRunFile_eq_error {dir action : String} {e : Disk.Error}
    (h : (openRunFile moment dir action).run.run disk = (.error e, disk')) :
    disk.KeepsAllBut [] disk' := by
  have hdirs := Disk.keepsAllBut_makeDirs ((Path.ofString dir).child action) disk
  rcases Disk.run_bind_eq_error h with hmake | ⟨_, middle, hmake, hopen⟩ <;> rw [hmake] at hdirs
  · exact hdirs
  · rw [Disk.openEnd_eq_error hopen]
    exact hdirs

/-! ## Setting up -/

/-- Whether a logger does as it was told: it has a handler for the console, and one for the run file
if it is to write one, which is there. -/
structure Obeys (logger : Logger) (moment : Moment) (options : Options) (disk : Disk) : Prop where
  handlers : logger.handlers =
    .console (rankOfName options.level) :: logger.places.map (.file Level.debug.rank)
  threshold : logger.threshold = min Level.debug.rank (rankOfName options.level)
  propagates : logger.propagates = false
  files : List.Forall₂ (fun path place ↦ disk.locate path = .ok place ∧ disk.HasFile place)
    (options.runPath? moment).toList logger.places

/-- **A set-up that succeeds** makes a logger that does as it was told, and changes at most the run
file. -/
theorem configure_eq_ok (h : (configure moment options).run.run disk = (.ok logger, disk')) :
    logger.Obeys moment options disk' ∧ disk.KeepsAllBut logger.places disk' := by
  cases haction : options.runAction? with
  | none =>
    simp only [configure, haction] at h
    cases h
    refine ⟨⟨rfl, rfl, rfl, ?_⟩, .refl _ disk⟩
    rw [Options.runPath?, haction]
    exact .nil
  | some action =>
    simp only [configure, haction] at h
    obtain ⟨place, middle, hopen, hdone⟩ := Disk.run_bind_eq_ok h
    cases hdone
    obtain ⟨hlocate, hfile, hkeeps⟩ := openRunFile_eq_ok hopen
    refine ⟨⟨rfl, rfl, rfl, ?_⟩, hkeeps⟩
    rw [Options.runPath?, haction]
    exact .cons ⟨hlocate, hfile⟩ .nil

/-- **A set-up fails only at its run file**, and then changes no file. -/
theorem configure_eq_error {e : Disk.Error}
    (h : (configure moment options).run.run disk = (.error e, disk')) :
    disk.KeepsAllBut [] disk' ∧ ∃ action, options.runAction? = some action ∧
      (openRunFile moment options.dir action).run.run disk = (.error e, disk') := by
  cases haction : options.runAction? with
  | none =>
    simp only [configure, haction] at h
    cases h
  | some action =>
    simp only [configure, haction] at h
    rcases Disk.run_bind_eq_error h with hopen | ⟨_, _, -, hdone⟩
    · exact ⟨openRunFile_eq_error hopen, action, rfl, hopen⟩
    · cases hdone

/-- A set-up fails where its run file cannot be opened. -/
theorem configure_of_openRunFile_eq_error {action : String} {e : Disk.Error}
    (haction : options.runAction? = some action)
    (h : (openRunFile moment options.dir action).run.run disk = (.error e, disk')) :
    (configure moment options).run.run disk = (.error e, disk') := by
  simp only [configure, haction, Disk.run_bind, h]

/-! ## Sending records -/

theorem hasFile_handle (moment : Moment) (record : Record) (handler : Handler) {place : Place}
    (h : disk.HasFile place) : (handle moment record disk handler).1.HasFile place := by
  unfold handle
  split
  · exact h
  · cases handler with
    | silent | console rank => exact h
    | file rank there =>
      dsimp only
      split
      · exact h.extend there _
      · exact h

theorem hasFile_handleAll (moment : Moment) (record : Record) (handlers : List Handler)
    {place : Place} (h : disk.HasFile place) :
    (handleAll moment record disk handlers).1.HasFile place := by
  induction handlers generalizing disk with
  | nil => exact h
  | cons handler handlers ih => exact ih (hasFile_handle moment record handler h)

/-- A file is still there after a record. -/
theorem hasFile_emitOne (logger : Logger) (moment : Moment) (record : Record) {place : Place}
    (h : disk.HasFile place) : (logger.emitOne moment disk record).1.HasFile place := by
  rw [emitOne]
  split
  · exact h
  · exact hasFile_handleAll moment record logger.handlers h

/-- A file is still there after any records. -/
theorem hasFile_emit (logger : Logger) (moment : Moment) (records : List Record) {place : Place}
    (h : disk.HasFile place) : (logger.emit moment disk records).1.HasFile place := by
  induction records generalizing disk with
  | nil => exact h
  | cons record records ih => exact ih (hasFile_emitOne logger moment record h)

theorem emit_singleton (logger : Logger) (moment : Moment) (disk : Disk) (record : Record) :
    logger.emit moment disk [record] = logger.emitOne moment disk record := by
  simp only [emit, String.append_empty]

/-- The disk with a line added to some files, if it has bytes. -/
def mirrored (places : List Place) (line : String) (disk : Disk) : Disk :=
  if Text.isEncodable line then places.foldl (fun disk place ↦ disk.extend place line) disk else disk

/-- What is shown of a line that some files were to take and cannot. -/
def reported (places : List Place) (line : String) : String :=
  if Text.isEncodable line then ""
  else String.join (places.map fun _ ↦ Surroundings.report line)

/-- Handlers of run files take the lines that have bytes, and others are reported. -/
theorem handleAll_files (moment : Moment) {record : Record} (hrank : Level.debug.rank ≤ record.rank)
    (disk : Disk) (places : List Place) :
    handleAll moment record disk (places.map (.file Level.debug.rank)) =
      (mirrored places (formatted moment record) disk, reported places (formatted moment record)) := by
  rw [mirrored, reported]
  induction places generalizing disk with
  | nil => simp [handleAll]
  | cons place places ih =>
    have hle : ¬record.rank < Level.debug.rank := Int.not_lt.2 hrank
    cases hbytes : Text.isEncodable (formatted moment record) <;>
      simp [handleAll, handle, Handler.rank, hle, hbytes, ih]

namespace Obeys

/-- A logger that is to write a run file writes to the place of its path, and else to none. -/
theorem places_cases (h : logger.Obeys moment options disk) :
    (options.runPath? moment = none ∧ logger.places = []) ∨
      ∃ path place, options.runPath? moment = some path ∧ logger.places = [place] ∧
        disk.locate path = .ok place ∧ disk.HasFile place := by
  have hfiles := h.files
  cases hpath : options.runPath? moment with
  | none =>
    rw [hpath, Option.toList_none, List.forall₂_nil_left_iff] at hfiles
    exact .inl ⟨rfl, hfiles⟩
  | some path =>
    rw [hpath, Option.toList_some, List.forall₂_cons_left_iff] at hfiles
    obtain ⟨place, places, ⟨hlocate, hfile⟩, hnil, hplaces⟩ := hfiles
    rw [List.forall₂_nil_left_iff.1 hnil] at hplaces
    exact .inr ⟨path, place, rfl, hplaces, hlocate, hfile⟩

/-- A logger goes on as it was told as long as paths lead where they led and files are there. -/
theorem of_keepsAllBut (h : logger.Obeys moment options disk) {places : List Place}
    (hkeeps : disk.KeepsAllBut places disk')
    (hfile : ∀ place, disk.HasFile place → disk'.HasFile place) :
    logger.Obeys moment options disk' where
  handlers := h.handlers
  threshold := h.threshold
  propagates := h.propagates
  files := h.files.imp fun _ place hplace ↦ ⟨hkeeps.locate_eq_ok hplace.1, hfile place hplace.2⟩

/-- Records do not keep a logger from what it was told. -/
theorem emit (h : logger.Obeys moment options disk) (now : Moment) (records : List Record) :
    logger.Obeys moment options (logger.emit now disk records).1 :=
  h.of_keepsAllBut (logger.keepsAllBut_emit now disk records)
    fun _ hfile ↦ logger.hasFile_emit now records hfile

theorem effectiveRank_eq (h : logger.Obeys moment options disk) :
    logger.effectiveRank = options.leastRank := by
  rw [effectiveRank, h.threshold, Options.leastRank]
  rcases rankOfName_eq_zero_or_le options.level with hzero | hle
  · rw [hzero]
    rfl
  · have hpos : rankOfName options.level ≠ 0 := fun hzero ↦ absurd (hzero ▸ hle) (by decide)
    rw [Int.min_eq_left hle, if_neg hpos]
    rfl

/-- **One record** that counts goes to the console if its rank is high enough, and to the run file if
its line has bytes. -/
theorem emitOne_eq_ite (h : logger.Obeys moment options disk) (now : Moment) (record : Record) :
    logger.emitOne now disk record =
      if record.rank < options.leastRank then (disk, "")
      else
        (mirrored logger.places (formatted now record) disk,
          (if rankOfName options.level ≤ record.rank then formatted now record else "") ++
            reported logger.places (formatted now record)) := by
  rw [emitOne, h.effectiveRank_eq, h.handlers, handleAll, handle, Handler.rank]
  by_cases hcounts : record.rank < options.leastRank
  · rw [if_pos hcounts, if_pos hcounts]
  · have hrank := Int.le_trans options.debug_rank_le_leastRank (Int.not_lt.1 hcounts)
    rw [if_neg hcounts, if_neg hcounts]
    by_cases hshown : rankOfName options.level ≤ record.rank
    · simp only [if_neg (Int.not_lt.2 hshown), if_pos hshown, handleAll_files now hrank]
    · simp only [if_pos (Int.not_le.1 hshown), if_neg hshown, handleAll_files now hrank]

/-- Where the level does not stand for rank zero, every record from the least level on counts. -/
theorem emitOne_eq (h : logger.Obeys moment options disk) (hlevel : rankOfName options.level ≠ 0)
    (now : Moment) {record : Record} (hrank : Level.debug.rank ≤ record.rank) :
    logger.emitOne now disk record =
      (mirrored logger.places (formatted now record) disk,
        (if rankOfName options.level ≤ record.rank then formatted now record else "") ++
          reported logger.places (formatted now record)) := by
  rw [h.emitOne_eq_ite, Options.leastRank, if_neg hlevel, if_neg (Int.not_lt.2 hrank)]

/-- A line with bytes is added to the run file, if there is one, and to nothing else; another line
changes nothing. -/
theorem nodeAt_mirrored (h : logger.Obeys moment options disk) (line : String) :
    match options.runPath? moment with
    | none => mirrored logger.places line disk = disk
    | some path => ∃ place before, disk.locate path = .ok place ∧
        disk.nodeAt place = some (.file before) ∧
        ∀ other, (mirrored logger.places line disk).nodeAt other =
          if other = place then
            some (.file (if Text.isEncodable line then before.extend line else before))
          else disk.nodeAt other := by
  rcases h.places_cases with ⟨hpath, hplaces⟩ | ⟨path, place, hpath, hplaces, hlocate, before, hnode⟩
  · rw [hpath, hplaces]
    exact ite_self disk
  · rw [hpath, hplaces]
    refine ⟨place, before, hlocate, hnode, fun other ↦ ?_⟩
    rw [mirrored]
    split_ifs with hbytes hplace hplace
    · rw [hplace, List.foldl_cons, List.foldl_nil, Disk.nodeAt_extend hnode, if_pos rfl]
    · rw [List.foldl_cons, List.foldl_nil, Disk.nodeAt_extend hnode, if_neg hplace]
    · rw [hplace, hnode]
    · rfl

/-- A line that has no bytes is reported once if there is a run file. -/
theorem reported_eq (h : logger.Obeys moment options disk) (line : String) :
    reported logger.places line =
      if Text.isEncodable line || (options.runPath? moment).isNone then ""
      else Surroundings.report line := by
  rw [reported]
  rcases h.places_cases with ⟨hpath, hplaces⟩ | ⟨path, place, hpath, hplaces, -⟩ <;>
    rw [hpath, hplaces] <;> cases Text.isEncodable line <;> simp

end Obeys

end Logger
end Log
end SearchFilter
