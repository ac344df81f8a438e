import SearchFilter.CommandLine.Run
import SearchFilter.Proofs.Chain
import SearchFilter.Proofs.Disk
import SearchFilter.Proofs.Settings.Writing
import SearchFilter.Proofs.Yaml.Content

/-!
# What loading settings gives

A file of settings that is laid over itself is read once.  That is the same as reading it twice and
laying the one document over the other: either way the same settings are loaded, or the same fault is
found.  A fault is put down to the settings, or else some file is no document.

* `Settings.fileText_of_nodeOf`: the text of a file.
* `Settings.loadOver_of_fileText_eq`: a file laid over a file of the same text.
* `Settings.isExplained_of_loadOver`: what a fault says about the settings or their files.
* `Settings.isSound_of_loadOver`: settings that can be loaded are sound.
* `copy_as_defaults`: what the copy of a file as defaults means for the settings of a run.
-/

set_option autoImplicit false

namespace SearchFilter
namespace Settings

variable {read : Yaml.Reader}

/-! ## Mappings of documents -/

theorem ofContent_eq_ok {content mapping : Yaml.Content} (h : ofContent content = .ok mapping) :
    mapping = content ∨ mapping = .empty := by
  rw [ofContent] at h
  split at h
  · exact .inl (Except.ok.inj h).symm
  · exact .inr (Except.ok.inj h).symm
  · cases h
  · split at h
    · exact .inr (Except.ok.inj h).symm
    · cases h

theorem ofContent_eq_error {content : Yaml.Content} {e : LoadError} (h : ofContent content = .error e) :
    e = .settings .rootNotMapping := by
  rw [ofContent] at h
  split at h
  · cases h
  · cases h
  · exact (Except.error.inj h).symm
  · split at h
    · cases h
    · exact (Except.error.inj h).symm

/-! ## Documents laid over themselves -/

/-- Whether the document of a text cannot be laid over itself. -/
def MergesEndlessly (read : Yaml.Reader) (text : String) : Prop :=
  ∃ content, parse read text = .ok content ∧ content.mergesEndlessly content = true

/-- A document that does not hold itself is laid over itself to an end. -/
theorem not_mergesEndlessly {text : String}
    (h : ∀ content, read text = .ok content → content.IsFinite) : ¬MergesEndlessly read text := by
  rintro ⟨content, hcontent, hendless⟩
  have hfinite : content.IsFinite := by
    rw [parse] at hcontent
    split at hcontent
    next whole hread =>
      rcases ofContent_eq_ok hcontent with rfl | rfl
      · exact h _ hread
      · exact Yaml.Content.isFinite_empty
    next => cases hcontent
  rw [content.mergesEndlessly_eq_false hfinite] at hendless
  cases hendless

section

variable [Surroundings] {disk : Disk} {path defaults : Path}

/-! ## Reading files -/

theorem fileText_of_nodeOf {text : String} (h : disk.nodeOf path = some (.file (.text text))) :
    fileText disk path = .ok (String.ofList (unifyLineEnds text.toList)) := by
  rw [Disk.nodeOf] at h
  cases hlocate : disk.locate path with
  | error cause => simp [hlocate] at h
  | ok there =>
    simp only [hlocate] at h
    have hread : (Disk.readText path).run.run disk = (.ok text, disk) := by
      rw [Disk.readText, Disk.run_bind, Disk.run_get]
      simp only [Disk.run_bind, Disk.run_place, hlocate, h]
      rfl
    rw [fileText, hread]

/-- **A file laid over another one of the same text** is loaded as if it were the only one, or it cannot
be laid over itself. -/
theorem loadOver_of_fileText_eq {text : String} (hpath : fileText disk path = .ok text)
    (hdefaults : fileText disk defaults = .ok text) (hne : path ≠ defaults) :
    (¬MergesEndlessly read text → loadOver read disk path defaults = load read disk path) ∧
    (MergesEndlessly read text → loadOver read disk path defaults = .error .endless) := by
  rw [loadOver, if_neg hne, load, hpath, hdefaults]
  simp only [loadOverText, hpath, bind, Except.bind]
  cases hparse : parse read text with
  | error e =>
    refine ⟨fun _ ↦ rfl, fun ⟨content, hcontent, _⟩ ↦ ?_⟩
    rw [hparse] at hcontent
    cases hcontent
  | ok content =>
    dsimp only
    refine ⟨fun hends ↦ ?_, fun ⟨content', hcontent, hendless⟩ ↦ ?_⟩
    · rw [if_neg fun hendless ↦ hends ⟨content, hparse, hendless⟩,
        Entries.merge_self (content.keysOnce_entries levels)]
    · cases hparse.symm.trans hcontent
      rw [if_pos hendless]

theorem loadOver_self (read : Yaml.Reader) (disk : Disk) (path : Path) :
    loadOver read disk path path = load read disk path :=
  if_pos rfl

/-! ## Faults -/

/-- Whether a file is no document, and that is the fault. -/
def IsNoDocument (read : Yaml.Reader) (disk : Disk) (e : LoadError) : Prop :=
  ∃ path text fault, fileText disk path = .ok text ∧ read text = .error fault ∧ e = .document fault

/-- Whether there are two files of which one cannot be laid over the other, and that is the fault. -/
def IsEndless (read : Yaml.Reader) (disk : Disk) (e : LoadError) : Prop :=
  ∃ path path' text text' upper base, fileText disk path = .ok text ∧ fileText disk path' = .ok text' ∧
    parse read text = .ok upper ∧ parse read text' = .ok base ∧
    (∀ levels, base.goesOn upper levels (base.top, upper.top) = true) ∧ e = .endless

/-- Whether a fault is put down to the settings, or to a file that is no document, or to two files of
which one cannot be laid over the other. -/
def IsExplained (read : Yaml.Reader) (disk : Disk) (e : LoadError) : Prop :=
  e.isRefusal = true ∨ IsNoDocument read disk e ∨ IsEndless read disk e

theorem isExplained_of_fileText {e : LoadError} (h : fileText disk path = .error e) :
    IsExplained read disk e := by
  rw [fileText] at h
  split at h <;> cases h
  exact .inl rfl

theorem isExplained_of_parse {text : String} {e : LoadError}
    (htext : fileText disk path = .ok text) (h : parse read text = .error e) :
    IsExplained read disk e := by
  rw [parse] at h
  cases hread : read text with
  | error fault =>
    simp only [hread] at h
    cases h
    exact .inr (.inl ⟨path, text, fault, htext, hread, rfl⟩)
  | ok content =>
    simp only [hread] at h
    rw [ofContent_eq_error h]
    exact .inl rfl

theorem isExplained_of_ofMapping {entries : Entries} {e : LoadError}
    (h : ofMapping entries = .error e) : IsExplained read disk e := by
  rw [ofMapping] at h
  split at h <;> cases h
  exact .inl rfl

theorem isExplained_of_load {e : LoadError} (h : load read disk path = .error e) :
    IsExplained read disk e := by
  rcases bind_eq_error_iff.1 h with h | ⟨text, htext, h⟩
  · exact isExplained_of_fileText h
  · rcases bind_eq_error_iff.1 h with h | ⟨content, -, h⟩
    · exact isExplained_of_parse htext h
    · exact isExplained_of_ofMapping h

theorem isExplained_of_loadOverText {lower : String} {e : LoadError}
    (hlower : fileText disk defaults = .ok lower) (h : loadOverText read disk path lower = .error e) :
    IsExplained read disk e := by
  rcases bind_eq_error_iff.1 h with h | ⟨base, hbase, h⟩
  · exact isExplained_of_parse hlower h
  · rcases bind_eq_error_iff.1 h with h | ⟨text, htext, h⟩
    · exact isExplained_of_fileText h
    · rcases bind_eq_error_iff.1 h with h | ⟨upper, hupper, h⟩
      · exact isExplained_of_parse htext h
      · split_ifs at h with hendless
        · cases h
          exact .inr (.inr ⟨path, defaults, text, lower, upper, base, htext, hlower, hupper, hbase,
            Yaml.Content.mergesEndlessly_iff.1 hendless, rfl⟩)
        · exact isExplained_of_ofMapping h

/-- **A fault of loading is one of the settings**, or of a file that is no document, or of two files of
which one cannot be laid over the other. -/
theorem isExplained_of_loadOver {e : LoadError} (h : loadOver read disk path defaults = .error e) :
    IsExplained read disk e := by
  rw [loadOver] at h
  split at h
  · exact isExplained_of_load h
  · rcases bind_eq_error_iff.1 h with h | ⟨lower, hlower, h⟩
    · exact isExplained_of_fileText h
    · exact isExplained_of_loadOverText hlower h

/-! ## Settings that have been loaded -/

/-- Settings that can be loaded are held by a mapping, that of a file or a merge of two. -/
theorem exists_ofEntries_of_loadOver {settings : Settings}
    (h : loadOver read disk path defaults = .ok settings) :
    ∃ entries, ofEntries entries = .ok settings := by
  have hmapping : ∀ {entries : Entries}, ofMapping entries = .ok settings →
      ∃ entries, ofEntries entries = .ok settings := by
    intro entries h
    rw [ofMapping] at h
    split at h
    next loaded hentries =>
      cases h
      exact ⟨entries, hentries⟩
    next => cases h
  rw [loadOver] at h
  split at h
  · obtain ⟨text, -, h⟩ := bind_eq_ok_iff.1 h
    obtain ⟨entries, -, h⟩ := bind_eq_ok_iff.1 h
    exact hmapping h
  · obtain ⟨lower, -, h⟩ := bind_eq_ok_iff.1 h
    obtain ⟨base, -, h⟩ := bind_eq_ok_iff.1 h
    obtain ⟨text, -, h⟩ := bind_eq_ok_iff.1 h
    obtain ⟨upper, -, h⟩ := bind_eq_ok_iff.1 h
    split_ifs at h
    exact hmapping h

/-- **Settings that can be loaded are sound.** -/
theorem isSound_of_loadOver {settings : Settings}
    (h : loadOver read disk path defaults = .ok settings) : settings.IsSound :=
  isSound_iff.2 (exists_ofEntries_of_loadOver h)

/-- Settings that can be loaded have a format. -/
theorem formats_ne_nil_of_loadOver {settings : Settings}
    (h : loadOver read disk path defaults = .ok settings) : settings.formats ≠ [] :=
  (isSound_of_loadOver h).someFormat

end

end Settings

open CommandLine

/-- **Settings are the same over a copy of themselves.**  A file laid over itself, which is read once,
gives the same settings or the same fault as over another file of the same text; so a run without
default settings loads what it would load if these were a copy of the settings that it is given.  This
holds of all texts but those whose documents hold themselves so that they cannot be laid over
themselves, where the other file gives that fault; and no document is one of these if no value in it
holds itself. -/
theorem copy_as_defaults [Surroundings] (packages : Packages) (text : String) :
    let read := packages.documents
    let lines := String.ofList (Settings.unifyLineEnds text.toList)
    (¬Settings.MergesEndlessly read lines →
      (∀ disk path defaults, disk.nodeOf path = some (.file (.text text)) →
        disk.nodeOf defaults = some (.file (.text text)) →
        Settings.loadOver read disk path path = Settings.loadOver read disk path defaults) ∧
      ∀ bare disk given, bare.nodeOf (Path.ofString given) = some (.file (.text text)) →
        bare.holds (Path.ofString defaultSettings) = false →
        disk.nodeOf (Path.ofString given) = some (.file (.text text)) →
        disk.nodeOf (Path.ofString defaultSettings) = some (.file (.text text)) →
        loadSettings packages bare given = loadSettings packages disk given) ∧
    (Settings.MergesEndlessly read lines →
      ∀ disk path defaults, disk.nodeOf path = some (.file (.text text)) →
        disk.nodeOf defaults = some (.file (.text text)) → path ≠ defaults →
        Settings.loadOver read disk path defaults = .error .endless) ∧
    ((∀ content, read lines = .ok content → content.IsFinite) →
      ¬Settings.MergesEndlessly read lines) := by
  intro read lines
  have hsame : ¬Settings.MergesEndlessly read lines → ∀ disk path defaults,
      disk.nodeOf path = some (.file (.text text)) → disk.nodeOf defaults = some (.file (.text text)) →
      Settings.loadOver read disk path path = Settings.loadOver read disk path defaults := by
    intro hends disk path defaults hpath hdefaults
    by_cases hne : path = defaults
    · rw [hne]
    · rw [Settings.loadOver_self, (Settings.loadOver_of_fileText_eq (Settings.fileText_of_nodeOf hpath)
        (Settings.fileText_of_nodeOf hdefaults) hne).1 hends]
  refine ⟨fun hends ↦ ⟨hsame hends, fun bare disk given hbare hnone hgiven hdefaults ↦ ?_⟩,
    fun hendless disk path defaults hpath hdefaults hne ↦ ?_, Settings.not_mergesEndlessly⟩
  · have hholds : disk.holds (Path.ofString defaultSettings) = true := by
      rw [Disk.holds, hdefaults]
      rfl
    simp only [loadSettings, hnone, hholds, if_true, Bool.false_eq_true, if_false]
    rw [← hsame hends disk _ _ hgiven hdefaults, Settings.loadOver_self, Settings.loadOver_self]
    simp only [Settings.load, Settings.fileText_of_nodeOf hbare, Settings.fileText_of_nodeOf hgiven]
    rfl
  · exact (Settings.loadOver_of_fileText_eq (Settings.fileText_of_nodeOf hpath)
      (Settings.fileText_of_nodeOf hdefaults) hne).2 hendless

/-- A document with a repeated key, over a copy of itself. -/
theorem copy_as_defaults_repeated_key :
    ∃ (text : String) (bare disk : Disk),
      bare = ⟨[(["my.yml"], .file text)], []⟩ ∧
      disk = ⟨[(["my.yml"], .file text), (["config"], .directory),
        (["config", "default.yml"], .file text)], []⟩ ∧
      Settings.loadOver Yaml.read disk ⟨false, ["my.yml"]⟩ ⟨false, ["my.yml"]⟩ =
        Settings.loadOver Yaml.read disk ⟨false, ["my.yml"]⟩ ⟨false, ["config", "default.yml"]⟩ ∧
      loadSettings .standard bare "my.yml" = loadSettings .standard disk "my.yml" ∧
      (loadSettings .standard bare "my.yml").toOption =
        some ⟨.info, false, "b", "c", [.json], []⟩ := by
  obtain ⟨text, htext⟩ : ∃ text, "log: {level: info, to_file: no, dir: a, dir: b}\n" ++
    "output: {base_dir: c, formats: [json]}\n" = text := ⟨_, rfl⟩
  have hcopy := copy_as_defaults .standard text
  have hfinite : ∀ content,
      Yaml.read (String.ofList (Settings.unifyLineEnds text.toList)) = .ok content →
        content.IsFinite := by
    intro content hcontent
    have hends : ((Yaml.read (String.ofList (Settings.unifyLineEnds text.toList))).map fun content ↦
        content.endsWithin 4 content.top).toOption = some true := by
      subst htext
      decide +kernel
    rw [hcontent] at hends
    have hwithin : content.endsWithin 4 content.top = true := Option.some.inj hends
    exact Yaml.Content.ends_of_endsWithin hwithin
  obtain ⟨hfiles, hruns⟩ := hcopy.1 (hcopy.2.2 hfinite)
  refine ⟨text, _, _, rfl, rfl, hfiles _ _ _ rfl rfl, hruns _ _ _ rfl rfl rfl rfl, ?_⟩
  subst htext
  decide +kernel

end SearchFilter
