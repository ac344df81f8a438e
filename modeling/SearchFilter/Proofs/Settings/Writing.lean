import Mathlib.Data.List.Nodup
import SearchFilter.Proofs.Settings.Acceptance

/-!
# Settings written down

Settings can be written down as a mapping: the level and the formats by their names, everything else
as it is.  Settings that some mapping holds are read back from there.  This is shown without opening
the reading: the values that are written down make sense, so the mapping holds settings; these are
given by the values that stand in it, and these values give nothing else.

* `IsSound` is what holds of checked settings.
* `Written.StandsIn.unique` and `Written.Gives.unique`: only one set of values stands in a mapping, and
  it gives only one set of settings.
* `written` are the values for settings, `Written.toEntries` is a mapping for values.
* `IsSound.ofEntries_eq_ok`: sound settings are read from each mapping in which their values stand.
* `isSound_iff`: settings are sound when some mapping holds them.
-/

set_option autoImplicit false

namespace SearchFilter

namespace Settings

/-! ## Names as they are compared -/

@[simp]
theorem normalLevel_name (level : Log.Level) : normalLevel level.name = level.name := by
  cases level <;> decide +kernel

@[simp]
theorem normalFormat_name (format : Format) : normalFormat format.name = format.name := by
  cases format <;> decide +kernel

theorem map_normalFormat_name (formats : List Format) :
    (formats.map (·.name)).map normalFormat = formats.map (·.name) := by
  simp [Function.comp_def]

/-! ## Checked settings -/

/-- **What holds of settings that have been checked**, besides what their type says. -/
structure IsSound (settings : Settings) : Prop where
  someFormat : settings.formats ≠ []
  formats_nodup : settings.formats.Nodup
  /-- If records go to a file there is a directory for it. -/
  namedLogDir : settings.toFile = true → isBlank settings.logDir = false
  /-- If results go to a file there is a directory for it. -/
  namedOutputDir : .json ∈ settings.formats → isBlank settings.outputDir = false

variable {w w' : Written} {entries : Entries} {settings settings' : Settings}

/-! ## Values determine settings -/

theorem QueriesIn.unique {value : Option Value} {queries queries' : List String}
    (h : QueriesIn value queries) (h' : QueriesIn value queries') : queries = queries' := by
  cases h with
  | absent => cases h'; rfl
  | null => cases h'; rfl
  | one query => cases h'; rfl
  | list queries =>
    -- the second case split needs a variable where the list of texts stands
    generalize hlist : some (Value.list (queries.map .string)) = value at h'
    cases h' with
    | list queries' => simpa using congrArg textsOf hlist
    | _ => cases hlist

/-- **The values that stand in a mapping are determined by it.** -/
theorem Written.StandsIn.unique (h : w.StandsIn entries) (h' : w'.StandsIn entries) : w = w' := by
  have hlevel := h.level.symm.trans h'.level
  have htoFile := h.toFile.symm.trans h'.toFile
  have hlogDir := h.logDir.symm.trans h'.logDir
  have hformats := congrArg textsOf (h.formats.symm.trans h'.formats)
  have houtputDir := h.outputDir.symm.trans h'.outputDir
  have hqueries := h.queries.unique h'.queries
  rw [textsOf_list_map, textsOf_list_map] at hformats
  cases w
  cases w'
  simp_all

namespace Written.Gives

theorem formats_nodup (h : w.Gives settings) : settings.formats.Nodup := by
  refine .of_map Format.name (h.formats_pairwise.imp ?_)
  rintro name _ hlt rfl
  exact Nat.lt_irrefl _ hlt

/-- **The settings that values give are determined by them.**  The formats are the same ones, in the
order of their first names. -/
theorem unique (h : w.Gives settings) (h' : w.Gives settings') : settings = settings' := by
  have hlevel : settings.level = settings'.level :=
    Log.Level.name_injective (h.level.trans h'.level.symm)
  have hperm : (settings.formats.map (·.name)).Perm (settings'.formats.map (·.name)) :=
    (List.perm_ext_iff_of_nodup (h.formats_nodup.map Format.name_injective)
      (h'.formats_nodup.map Format.name_injective)).2 fun name ↦
        (h.mem_formats_iff name).trans (h'.mem_formats_iff name).symm
  have hformats : settings.formats = settings'.formats :=
    List.map_injective_iff.2 Format.name_injective <| hperm.eq_of_pairwise
      (fun _ _ _ _ hlt hgt ↦ absurd hlt (Nat.lt_asymm hgt)) h.formats_pairwise h'.formats_pairwise
  have htoFile := h.toFile.trans h'.toFile.symm
  have hlogDir := h.logDir.trans h'.logDir.symm
  have houtputDir := h.outputDir.trans h'.outputDir.symm
  have hqueries := h.queries.trans h'.queries.symm
  cases settings
  cases settings'
  simp_all

/-- Settings that are given by values that make sense are sound. -/
theorem isSound (h : w.Gives settings) (hsense : w.MakesSense) : settings.IsSound where
  someFormat := by
    obtain ⟨name, hname, hne⟩ := hsense.someFormat
    have hmem := (h.mem_formats_iff (normalFormat name)).2 ⟨hne, List.mem_map_of_mem hname⟩
    exact fun hnil ↦ by simp [hnil] at hmem
  formats_nodup := h.formats_nodup
  namedLogDir := by
    rw [h.toFile, h.logDir]
    exact hsense.namedLogDir
  namedOutputDir hjson := by
    obtain ⟨-, hmem⟩ := (h.mem_formats_iff "json").1 (List.mem_map_of_mem hjson)
    obtain ⟨name, hname, hnormal⟩ := List.mem_map.1 hmem
    rw [h.outputDir]
    exact hsense.namedOutputDir ⟨name, hname, hnormal⟩

end Written.Gives

/-! ## Settings as values -/

/-- The values for settings: level and formats by their names. -/
def written (settings : Settings) : Written where
  level := settings.level.name
  toFile := settings.toFile
  logDir := settings.logDir
  formats := settings.formats.map (·.name)
  outputDir := settings.outputDir
  queries := settings.queries

/-- A mapping for values. -/
def Written.toEntries (w : Written) : Entries :=
  [("log", .mapping [("level", .string w.level), ("to_file", .bool w.toFile),
      ("dir", .string w.logDir)]),
    ("output", .mapping [("base_dir", .string w.outputDir),
      ("formats", .list (w.formats.map .string))]),
    ("queries", .list (w.queries.map .string))]

theorem Written.standsIn_toEntries (w : Written) : w.StandsIn w.toEntries :=
  ⟨rfl, rfl, rfl, rfl, rfl, .list w.queries⟩

namespace IsSound

/-- The values for sound settings make sense. -/
theorem makesSense (h : settings.IsSound) : settings.written.MakesSense where
  knownLevel := by
    rw [written, normalLevel_name]
    cases settings.level <;> decide
  namedLogDir := h.namedLogDir
  someFormat := by
    obtain ⟨format, hformat⟩ := List.exists_mem_of_ne_nil _ h.someFormat
    refine ⟨format.name, List.mem_map_of_mem hformat, ?_⟩
    rw [normalFormat_name]
    cases format <;> decide
  knownFormats := List.forall_mem_map.2 fun format _ ↦ by
    rw [normalFormat_name]
    cases format <;> decide
  namedOutputDir := by
    rintro ⟨name, hname, hjson⟩
    obtain ⟨format, hformat, rfl⟩ := List.mem_map.1 hname
    rw [normalFormat_name] at hjson
    have heq : format = .json := Format.name_injective hjson
    exact h.namedOutputDir (heq ▸ hformat)

/-- The values for sound settings give these. -/
theorem gives (h : settings.IsSound) : settings.written.Gives settings where
  level := (normalLevel_name settings.level).symm
  toFile := rfl
  logDir := rfl
  mem_formats_iff name := by
    rw [written, map_normalFormat_name, iff_and_self]
    intro hname
    obtain ⟨format, -, rfl⟩ := List.mem_map.1 hname
    cases format <;> decide
  formats_pairwise := by
    have hnodup : (settings.formats.map (·.name)).Nodup :=
      h.formats_nodup.map Format.name_injective
    rw [written, map_normalFormat_name, List.pairwise_iff_getElem]
    intro i j hi hj hlt
    rwa [hnodup.idxOf_getElem, hnodup.idxOf_getElem]
  outputDir := rfl
  queries := rfl

/-- **Sound settings are read from each mapping in which their values stand.** -/
theorem ofEntries_eq_ok (h : settings.IsSound) (hstands : settings.written.StandsIn entries) :
    ofEntries entries = .ok settings := by
  obtain ⟨settings', hread⟩ := hstands.exists_ofEntries_eq_ok h.makesSense
  obtain ⟨w, hw, -, hgives⟩ := exists_written_of_ofEntries_eq_ok hread
  obtain rfl := hw.unique hstands
  rw [hread, hgives.unique h.gives]

end IsSound

/-- **Settings are sound when some mapping holds them.** -/
theorem isSound_iff : settings.IsSound ↔ ∃ entries, ofEntries entries = .ok settings := by
  refine ⟨fun h ↦ ⟨_, h.ofEntries_eq_ok settings.written.standsIn_toEntries⟩, ?_⟩
  rintro ⟨entries, h⟩
  obtain ⟨w, -, hsense, hgives⟩ := exists_written_of_ofEntries_eq_ok h
  exact hgives.isSound hsense

end Settings
end SearchFilter
