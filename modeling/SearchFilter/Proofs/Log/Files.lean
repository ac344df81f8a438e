import SearchFilter.Log.Logger
import SearchFilter.Proofs.Disk

/-!
# The files of a logger

Records change nothing but the run files of the logger that they are sent to.

* `Log.Logger.places` lists these files; a logger that was never set up has none.
* `Log.Logger.keepsAllBut_emit`: everything else on the disk stays as it was.
-/

set_option autoImplicit false

namespace SearchFilter
namespace Log

/-- The file that a handler writes to. -/
def Handler.place? : Handler → Option Place
  | file _ place => some place
  | silent | console _ => none

namespace Logger

/-- The files that a logger writes to. -/
def places (logger : Logger) : List Place :=
  logger.handlers.filterMap Handler.place?

variable [Surroundings]

theorem keepsAllBut_handle (moment : Moment) (record : Record) (disk : Disk) (handler : Handler) :
    disk.KeepsAllBut handler.place?.toList (handle moment record disk handler).1 := by
  unfold handle
  split
  · exact .refl _ disk
  · cases handler with
    | silent => exact .refl _ disk
    | console rank => exact .refl _ disk
    | file rank place =>
      simp only [Handler.place?, Option.toList_some]
      split
      · exact disk.keepsAllBut_extend place _
      · exact .refl _ disk

theorem keepsAllBut_handleAll (moment : Moment) (record : Record) (disk : Disk)
    (handlers : List Handler) :
    disk.KeepsAllBut (handlers.filterMap Handler.place?)
      (handleAll moment record disk handlers).1 := by
  induction handlers generalizing disk with
  | nil => exact .refl _ disk
  | cons handler handlers ih =>
    have hplaces : (handler :: handlers).filterMap Handler.place? =
        handler.place?.toList ++ handlers.filterMap Handler.place? := by
      cases h : handler.place? <;> simp [h]
    rw [hplaces]
    exact ((keepsAllBut_handle moment record disk handler).mono (List.subset_append_left _ _)).trans
      ((ih _).mono (List.subset_append_right _ _))

theorem keepsAllBut_emitOne (logger : Logger) (moment : Moment) (disk : Disk) (record : Record) :
    disk.KeepsAllBut logger.places (logger.emitOne moment disk record).1 := by
  rw [emitOne]
  split
  · exact .refl _ disk
  · exact keepsAllBut_handleAll moment record disk logger.handlers

/-- **Records change only the files of the logger**, one record after another. -/
theorem keepsAllBut_emit (logger : Logger) (moment : Moment) (disk : Disk) (records : List Record) :
    disk.KeepsAllBut logger.places (logger.emit moment disk records).1 := by
  induction records generalizing disk with
  | nil => exact .refl _ disk
  | cons record records ih => exact (keepsAllBut_emitOne logger moment disk record).trans (ih _)

end Logger
end Log
end SearchFilter
