import Mathlib.Tactic.SplitIfs
import SearchFilter.Disk.Basic

/-!
# What actions leave on a disk

Directories are only made where there was nothing, and a file is written at one place; everything
else stays as it was.

* `Disk.getLast?_of_locate_eq_ok`: a path leads to a place of its last name.
* `Disk.KeepsAllBut` says that the files of a disk are the same and its directories still there, but
  for some places.  Paths lead where they led: `Disk.KeepsAllBut.locate_eq_ok`.
* `Disk.keepsAllBut_makeDirs`: the making of directories changes no file, also where it fails.
* `Disk.openNew_eq_ok`: a file that could be opened anew is there and empty, and it is the only change;
  `Disk.run_writeText` says when its text then gets there.
* `Disk.keepsAllBut_extend`: nothing but one file grows.
* `Disk.HasFile` says that there is a file at a place; `Disk.KeepsAllBut.hasFile` that it stays there.
-/

set_option autoImplicit false

namespace SearchFilter
namespace Disk

variable {α β : Type} {disk disk' disk'' : Disk}

/-! ## What is at a place -/

theorem lookup_putNode (place place' : Place) (node : Node) (nodes : List (Place × Node)) :
    (putNode place node nodes).lookup place' =
      if place' = place then some node else nodes.lookup place' := by
  induction nodes with
  | nil => by_cases h : place' = place <;> simp [putNode, h]
  | cons entry nodes ih =>
    obtain ⟨p, n⟩ := entry
    rw [putNode]
    split
    next hp =>
      subst hp
      by_cases h : place' = p <;> simp [List.lookup_cons, h, beq_false_of_ne]
    next hp =>
      rw [List.lookup_cons, List.lookup_cons, ih]
      by_cases h : place' = p
      · subst h
        simp [hp]
      · simp [beq_false_of_ne h]

/-- The root stays what it is, whatever is put there. -/
theorem nodeAt_put_self {place : Place} (h : place ≠ []) (disk : Disk) (node : Node) :
    (disk.put place node).nodeAt place = some node := by
  rw [nodeAt, if_neg h, put, lookup_putNode, if_pos rfl]

theorem nodeAt_put_of_ne {place place' : Place} (h : place' ≠ place) (disk : Disk) (node : Node) :
    (disk.put place node).nodeAt place' = disk.nodeAt place' := by
  rw [nodeAt, nodeAt, put, lookup_putNode, if_neg h]

theorem ne_nil_of_nodeAt_ne_directory {place : Place} (h : disk.nodeAt place ≠ some .directory) :
    place ≠ [] := by
  rintro rfl
  exact h rfl

/-! ## What stays -/

/-- Whether a disk still has what another one had: its files as they were, but for some places, and
its directories.  There can be new directories. -/
structure KeepsAllBut (places : List Place) (disk disk' : Disk) : Prop where
  home : disk'.home = disk.home
  directory : ∀ place, disk.nodeAt place = some .directory → disk'.nodeAt place = some .directory
  file : ∀ place ∉ places, ∀ contents,
    disk'.nodeAt place = some (.file contents) ↔ disk.nodeAt place = some (.file contents)

namespace KeepsAllBut

variable {places places' : List Place}

theorem refl (places : List Place) (disk : Disk) : disk.KeepsAllBut places disk :=
  ⟨rfl, fun _ h ↦ h, fun _ _ _ ↦ Iff.rfl⟩

theorem trans (h : disk.KeepsAllBut places disk') (h' : disk'.KeepsAllBut places disk'') :
    disk.KeepsAllBut places disk'' where
  home := h'.home.trans h.home
  directory place hdir := h'.directory place (h.directory place hdir)
  file place hplace contents :=
    (h'.file place hplace contents).trans (h.file place hplace contents)

theorem mono (h : disk.KeepsAllBut places disk') (hsub : places ⊆ places') :
    disk.KeepsAllBut places' disk' :=
  ⟨h.home, h.directory, fun place hplace ↦ h.file place fun hmem ↦ hplace (hsub hmem)⟩

theorem put_directory {place : Place} (h : disk.nodeAt place = none) :
    disk.KeepsAllBut [] (disk.put place .directory) := by
  have hdir : disk.nodeAt place ≠ some .directory := by simp [h]
  have hne := ne_nil_of_nodeAt_ne_directory hdir
  refine ⟨rfl, fun place' hdir ↦ ?_, fun place' _ contents ↦ ?_⟩ <;>
    by_cases hplace : place' = place
  · rw [hplace, nodeAt_put_self hne]
  · rwa [nodeAt_put_of_ne hplace]
  · simp [hplace, nodeAt_put_self hne, h]
  · rw [nodeAt_put_of_ne hplace]

theorem put_file {place : Place} (h : disk.nodeAt place ≠ some .directory) (contents : Contents) :
    disk.KeepsAllBut [place] (disk.put place (.file contents)) := by
  refine ⟨rfl, fun place' hdir ↦ ?_, fun place' hplace contents' ↦ ?_⟩
  · have hplace : place' ≠ place := fun heq ↦ h (heq ▸ hdir)
    rwa [nodeAt_put_of_ne hplace]
  · rw [nodeAt_put_of_ne (by simpa using hplace)]

end KeepsAllBut

/-! ## Files that grow -/

theorem Contents.extend_empty (contents : Contents) : contents.extend "" = contents := by
  cases contents <;> simp [extend]

theorem Contents.extend_append (contents : Contents) (s t : String) :
    contents.extend (s ++ t) = (contents.extend s).extend t := by
  cases contents <;> simp [extend, String.append_assoc]

/-- Whether there is a file at a place. -/
def HasFile (disk : Disk) (place : Place) : Prop :=
  ∃ contents, disk.nodeAt place = some (.file contents)

theorem nodeAt_extend {there : Place} {before : Contents}
    (h : disk.nodeAt there = some (.file before)) (text : String) (place : Place) :
    (disk.extend there text).nodeAt place =
      if place = there then some (.file (before.extend text)) else disk.nodeAt place := by
  have hnode : disk.nodeAt there ≠ some .directory := by simp [h]
  simp only [extend, h]
  split_ifs with hplace
  · rw [hplace]
    exact nodeAt_put_self (ne_nil_of_nodeAt_ne_directory hnode) disk _
  · exact nodeAt_put_of_ne hplace disk _

theorem HasFile.extend {place : Place} (h : disk.HasFile place) (there : Place) (text : String) :
    (disk.extend there text).HasFile place := by
  by_cases hthere : disk.HasFile there
  · obtain ⟨before, hbefore⟩ := hthere
    rw [HasFile, nodeAt_extend hbefore]
    split_ifs
    · exact ⟨_, rfl⟩
    · exact h
  · have hsame : disk.extend there text = disk := by
      rw [Disk.extend]
      split
      next before hnode => exact absurd ⟨before, hnode⟩ hthere
      next => rfl
    rwa [hsame]

theorem KeepsAllBut.hasFile {places : List Place} (h : disk.KeepsAllBut places disk') {place : Place}
    (hplace : place ∉ places) (hfile : disk.HasFile place) : disk'.HasFile place := by
  obtain ⟨contents, hnode⟩ := hfile
  exact ⟨contents, (h.file place hplace contents).2 hnode⟩

/-- Where one file is written, all files are still there. -/
theorem KeepsAllBut.hasFile_of_hasFile {there : Place} (h : disk.KeepsAllBut [there] disk')
    (hthere : disk'.HasFile there) {place : Place} (hfile : disk.HasFile place) :
    disk'.HasFile place := by
  by_cases hplace : place = there
  · rwa [hplace]
  · exact h.hasFile (fun hmem ↦ hplace (List.mem_singleton.1 hmem)) hfile

theorem keepsAllBut_extend (disk : Disk) (place : Place) (text : String) :
    disk.KeepsAllBut [place] (disk.extend place text) := by
  rw [extend]
  split
  next before hnode => exact .put_file (by simp [hnode]) _
  next => exact .refl _ disk

/-! ## Running actions -/

theorem run_bind (action : Action α) (next : α → Action β) (disk : Disk) :
    (action >>= next).run.run disk =
      match action.run.run disk with
      | (.ok a, disk') => (next a).run.run disk'
      | (.error e, disk') => (.error e, disk') := by
  rw [ExceptT.run_bind, StateT.run_bind]
  rcases action.run.run disk with ⟨_ | a, disk'⟩ <;> rfl

/-- **An action that succeeds does so in each of its parts.** -/
theorem run_bind_eq_ok {action : Action α} {next : α → Action β} {b : β}
    (h : (action >>= next).run.run disk = (.ok b, disk')) :
    ∃ a middle, action.run.run disk = (.ok a, middle) ∧
      (next a).run.run middle = (.ok b, disk') := by
  rw [run_bind] at h
  rcases hrun : action.run.run disk with ⟨e | a, middle⟩ <;> rw [hrun] at h
  · cases h
  · exact ⟨a, middle, rfl, h⟩

/-- **An action that fails does so in one of its parts**; the parts before it have succeeded. -/
theorem run_bind_eq_error {action : Action α} {next : α → Action β} {e : Error}
    (h : (action >>= next).run.run disk = (.error e, disk')) :
    action.run.run disk = (.error e, disk') ∨
      ∃ a middle, action.run.run disk = (.ok a, middle) ∧
        (next a).run.run middle = (.error e, disk') := by
  rw [run_bind] at h
  rcases hrun : action.run.run disk with ⟨e' | a, middle⟩ <;> rw [hrun] at h
  · cases h
    exact .inl rfl
  · exact .inr ⟨a, middle, rfl, h⟩

theorem run_tryCatch (action : Action α) (handle : Error → Action α) (disk : Disk) :
    (tryCatch action handle).run.run disk =
      match action.run.run disk with
      | (.ok a, disk') => (.ok a, disk')
      | (.error e, disk') => (handle e).run.run disk' := by
  rw [ExceptT.run_tryCatch, StateT.run_bind]
  rcases action.run.run disk with ⟨_ | a, disk'⟩ <;> rfl

theorem run_get (disk : Disk) : (get : Action Disk).run.run disk = (.ok disk, disk) :=
  rfl

/-- Whether an action changes no file and leaves all directories, also where it fails. -/
def Action.KeepsAll (action : Action α) : Prop :=
  ∀ disk : Disk, disk.KeepsAllBut [] (action.run.run disk).2

theorem keepsAll_pure (a : α) : (pure a : Action α).KeepsAll :=
  KeepsAllBut.refl []

theorem keepsAll_throw (e : Error) : (throw e : Action α).KeepsAll :=
  KeepsAllBut.refl []

theorem keepsAll_get : (get : Action Disk).KeepsAll :=
  KeepsAllBut.refl []

theorem keepsAll_bind {action : Action α} {next : α → Action β} (h : action.KeepsAll)
    (hnext : ∀ a, (next a).KeepsAll) : (action >>= next).KeepsAll := by
  intro disk
  have hfirst := h disk
  rw [run_bind]
  rcases hrun : action.run.run disk with ⟨_ | a, disk'⟩ <;> rw [hrun] at hfirst
  · exact hfirst
  · exact hfirst.trans (hnext a disk')

theorem keepsAll_tryCatch {action : Action α} {handle : Error → Action α} (h : action.KeepsAll)
    (hhandle : ∀ e, (handle e).KeepsAll) : (tryCatch action handle).KeepsAll := by
  intro disk
  have hfirst := h disk
  rw [run_tryCatch]
  rcases hrun : action.run.run disk with ⟨e | _, disk'⟩ <;> rw [hrun] at hfirst
  · exact hfirst.trans (hhandle e disk')
  · exact hfirst

section

variable [Surroundings]

/-! ## Where a path leads -/

theorem walk_cons_eq_ok_iff {place there : Place} {part : String} {parts : List String} :
    disk.walk place (part :: parts) = .ok there ↔
      disk.nodeAt place = some .directory ∧ byteSize part ≤ mostNameBytes ∧
        disk.walk (if part = ".." then place.dropLast else place ++ [part]) parts = .ok there := by
  rw [walk]
  cases disk.nodeAt place with
  | none => simp
  | some node =>
    cases node with
    | file contents => simp
    | directory =>
      by_cases hsize : byteSize part > mostNameBytes
      · simp [hsize, Nat.not_le.2 hsize]
      · simp [hsize, Nat.not_lt.1 hsize]

/-- A walk along some names ends at a place of the last one, unless that leads back. -/
theorem getLast?_of_walk_eq_ok {place there : Place} {parts : List String} {name : String}
    (hname : name ≠ "..") (h : disk.walk place (parts ++ [name]) = .ok there) :
    there.getLast? = some name := by
  induction parts generalizing place with
  | nil =>
    obtain ⟨-, -, hend⟩ := walk_cons_eq_ok_iff.1 h
    rw [if_neg hname] at hend
    cases hend
    exact List.getLast?_concat
  | cons part parts ih => exact ih (walk_cons_eq_ok_iff.1 h).2.2

/-- Whether the system is asked where a path leads. -/
def IsPassable (path : Path) : Prop :=
  Text.encodeFaultFrom? isByteEscape 0 path.toString.toList = none ∧
    path.parts.any (·.toList.contains '\x00') = false ∧ byteSize path.toString ≤ mostPathBytes

theorem locate_eq_ok_iff {path : Path} {there : Place} :
    disk.locate path = .ok there ↔
      IsPassable path ∧
        disk.walk (if path.absolute then [] else disk.home) path.parts = .ok there := by
  rw [locate, IsPassable]
  cases Text.encodeFaultFrom? isByteEscape 0 path.toString.toList with
  | some fault => simp
  | none =>
    cases path.parts.any (·.toList.contains '\x00') with
    | true => simp
    | false =>
      by_cases hsize : byteSize path.toString > mostPathBytes
      · simp [hsize, Nat.not_le.2 hsize]
      · simp [hsize, Nat.not_lt.1 hsize]

/-- **A path leads to a place of its last name**, unless that leads back. -/
theorem getLast?_of_locate_eq_ok {path : Path} {there : Place} {name : String}
    (hname : name ≠ "..") (hpath : path.parts.getLast? = some name)
    (h : disk.locate path = .ok there) : there.getLast? = some name := by
  obtain ⟨parts, hparts⟩ := List.getLast?_eq_some_iff.1 hpath
  exact getLast?_of_walk_eq_ok hname (hparts ▸ (locate_eq_ok_iff.1 h).2)

theorem KeepsAllBut.walk_eq_ok {places : List Place} (h : disk.KeepsAllBut places disk')
    {place there : Place} {parts : List String} (hwalk : disk.walk place parts = .ok there) :
    disk'.walk place parts = .ok there := by
  induction parts generalizing place with
  | nil => exact hwalk
  | cons part parts ih =>
    obtain ⟨hdir, hsize, hrest⟩ := walk_cons_eq_ok_iff.1 hwalk
    exact walk_cons_eq_ok_iff.2 ⟨h.directory place hdir, hsize, ih hrest⟩

/-- **A path leads to the same place** as before. -/
theorem KeepsAllBut.locate_eq_ok {places : List Place} (h : disk.KeepsAllBut places disk')
    {path : Path} {there : Place} (hlocate : disk.locate path = .ok there) :
    disk'.locate path = .ok there := by
  obtain ⟨hpass, hwalk⟩ := locate_eq_ok_iff.1 hlocate
  exact locate_eq_ok_iff.2 ⟨hpass, h.home ▸ h.walk_eq_ok hwalk⟩

/-! ## Making directories -/

theorem run_place (path : Path) (disk : Disk) :
    (place path).run.run disk =
      match disk.locate path with
      | .error cause => (.error ⟨cause, path⟩, disk)
      | .ok there => (.ok there, disk) := by
  simp only [place, run_bind, run_get]
  cases disk.locate path <;> rfl

theorem run_makeDir (path : Path) (disk : Disk) :
    (makeDir path).run.run disk =
      match disk.locate path with
      | .error cause => (.error ⟨cause, path⟩, disk)
      | .ok there =>
        if (disk.nodeAt there).isSome then (.error ⟨.alreadyThere, path⟩, disk)
        else (.ok (), disk.put there .directory) := by
  rw [makeDir, run_bind, run_place]
  cases disk.locate path with
  | error cause => rfl
  | ok there =>
    simp only [run_bind, run_get]
    split_ifs <;> rfl

theorem keepsAll_makeDir (path : Path) : (makeDir path).KeepsAll := by
  intro disk
  rw [run_makeDir]
  cases disk.locate path with
  | error cause => exact KeepsAllBut.refl [] disk
  | ok there =>
    cases hnode : disk.nodeAt there with
    | none => simpa [hnode] using KeepsAllBut.put_directory hnode
    | some node => simpa [hnode] using KeepsAllBut.refl [] disk

/-- A handler that returns at once where the directory is there, and fails again elsewhere. -/
theorem keepsAll_isDirectory_or_throw (path : Path) (e : Error) :
    Action.KeepsAll (do
      if (← get).isDirectory path then
        return (.error () : Except Unit Unit)
      else
        let done ← throw e
        return .ok done) := by
  refine keepsAll_bind keepsAll_get fun disk ↦ ?_
  split_ifs
  · exact keepsAll_pure _
  · exact keepsAll_bind (keepsAll_throw e) fun _ ↦ keepsAll_pure _

theorem keepsAll_ensureDir (path : Path) : (ensureDir path).KeepsAll := by
  -- What stands behind the handler tells an early return from the end of the action.
  refine keepsAll_bind (keepsAll_tryCatch
    (keepsAll_bind (keepsAll_makeDir path) fun _ ↦ keepsAll_pure _)
    fun e ↦ keepsAll_isDirectory_or_throw path e) fun outcome ↦ ?_
  cases outcome <;> exact keepsAll_pure ()

theorem keepsAll_makeDirsRev (absolute : Bool) (parts : List String) :
    (makeDirsRev absolute parts).KeepsAll := by
  induction parts with
  | nil => exact keepsAll_ensureDir _
  | cons part parents ih =>
    rw [makeDirsRev]
    refine keepsAll_bind (keepsAll_tryCatch
      (keepsAll_bind (keepsAll_makeDir _) fun _ ↦ keepsAll_pure _) fun e ↦ ?_) fun outcome ↦ ?_
    · split_ifs
      · exact keepsAll_bind ih fun _ ↦
          keepsAll_bind (keepsAll_ensureDir _) fun _ ↦ keepsAll_pure _
      · exact keepsAll_isDirectory_or_throw _ e
    · cases outcome <;> exact keepsAll_pure ()

/-- **The making of directories changes no file**, also where it fails. -/
theorem keepsAllBut_makeDirs (path : Path) (disk : Disk) :
    disk.KeepsAllBut [] ((makeDirs path).run.run disk).2 :=
  keepsAll_makeDirsRev path.absolute path.parts.reverse disk

/-! ## Writing files -/

theorem run_openFile (path : Path) (change : Contents → Contents) (disk : Disk) :
    (openFile path change).run.run disk =
      match disk.locate path with
      | .error cause => (.error ⟨cause, path⟩, disk)
      | .ok there =>
        match disk.nodeAt there with
        | some .directory => (.error ⟨.isDirectory, path⟩, disk)
        | some (.file contents) => (.ok there, disk.put there (.file (change contents)))
        | none => (.ok there, disk.put there (.file (change ""))) := by
  rw [openFile, run_bind, run_place]
  cases disk.locate path with
  | error cause => rfl
  | ok there =>
    simp only [run_bind, run_get]
    cases disk.nodeAt there with
    | none => rfl
    | some node => cases node <;> rfl

/-- A file that could be opened was there, or there was nothing in its place. -/
theorem openFile_eq_ok {path : Path} {change : Contents → Contents} {there : Place}
    (h : (openFile path change).run.run disk = (.ok there, disk')) :
    disk.locate path = .ok there ∧ ∃ before : Contents,
      (disk.nodeAt there = some (.file before) ∨ disk.nodeAt there = none ∧ before = "") ∧
      disk' = disk.put there (.file (change before)) := by
  rw [run_openFile] at h
  cases hlocate : disk.locate path with
  | error cause =>
    rw [hlocate] at h
    cases h
  | ok place =>
    simp only [hlocate] at h
    cases hnode : disk.nodeAt place with
    | none =>
      simp only [hnode] at h
      cases h
      exact ⟨rfl, "", .inr ⟨hnode, rfl⟩, rfl⟩
    | some node =>
      simp only [hnode] at h
      cases node with
      | directory => cases h
      | file before =>
        cases h
        exact ⟨rfl, before, .inl hnode, rfl⟩

/-- A file that could be opened is there, with the change, and it is the only one. -/
theorem openFile_keeps {path : Path} {change : Contents → Contents} {there : Place}
    (h : (openFile path change).run.run disk = (.ok there, disk')) :
    disk'.locate path = .ok there ∧ (∃ before, disk'.nodeAt there = some (.file (change before))) ∧
      disk.KeepsAllBut [there] disk' := by
  obtain ⟨hlocate, before, hbefore, rfl⟩ := openFile_eq_ok h
  have hnode : disk.nodeAt there ≠ some .directory := by
    rcases hbefore with h | ⟨h, -⟩ <;> simp [h]
  have hkeeps := KeepsAllBut.put_file hnode (change before)
  exact ⟨hkeeps.locate_eq_ok hlocate,
    ⟨before, nodeAt_put_self (ne_nil_of_nodeAt_ne_directory hnode) disk _⟩, hkeeps⟩

/-- A file that could not be opened is as it was, and so is everything else. -/
theorem openFile_eq_error {path : Path} {change : Contents → Contents} {e : Error}
    (h : (openFile path change).run.run disk = (.error e, disk')) : disk' = disk := by
  rw [run_openFile] at h
  split at h
  · cases h
    rfl
  · split at h <;> cases h
    rfl

/-- A file that could be opened anew is there and empty, and that is the only change. -/
theorem openNew_eq_ok {path : Path} {there : Place}
    (h : (openNew path).run.run disk = (.ok there, disk')) :
    disk'.locate path = .ok there ∧ disk'.nodeAt there = some (.file "") ∧
      disk.KeepsAllBut [there] disk' := by
  obtain ⟨hlocate, ⟨_, hnode⟩, hkeeps⟩ := openFile_keeps h
  exact ⟨hlocate, hnode, hkeeps⟩

theorem run_writeText (path : Path) (text : String) (disk : Disk) :
    (writeText path text).run.run disk =
      match (openNew path).run.run disk with
      | (.error e, disk') => (.error e, disk')
      | (.ok there, disk') =>
        match Text.encodeFault? text with
        | some fault => (.error ⟨.unencodable fault, path⟩, disk')
        | none => (.ok (), disk'.put there (.file text)) := by
  rw [writeText, run_bind]
  rcases (openNew path).run.run disk with ⟨e | there, disk'⟩
  · rfl
  · cases Text.encodeFault? text <;> rfl

/-- A file that could be opened at its end is there, and nothing else has changed. -/
theorem openEnd_eq_ok {path : Path} {there : Place}
    (h : (openEnd path).run.run disk = (.ok there, disk')) :
    disk'.locate path = .ok there ∧ disk'.HasFile there ∧
      disk.KeepsAllBut [there] disk' := by
  obtain ⟨hlocate, ⟨before, hnode⟩, hkeeps⟩ := openFile_keeps h
  exact ⟨hlocate, ⟨id before, hnode⟩, hkeeps⟩

theorem openEnd_eq_error {path : Path} {e : Error}
    (h : (openEnd path).run.run disk = (.error e, disk')) : disk' = disk :=
  openFile_eq_error h

end

end Disk
end SearchFilter
