import SearchFilter.Proofs.Chain
import SearchFilter.Proofs.Settings.Demand
import SearchFilter.Proofs.Settings.Names

/-!
# Which mappings hold settings

A mapping holds settings when all demands are met.  Said without demands, certain values stand in it
and make sense together; the settings are made from them.  Otherwise the first demand that is not met
gives the fault.

* `Written` are the values, `Written.StandsIn` says that they stand in a mapping,
  `Written.MakesSense` what is asked of them and `Written.Gives` what settings they give.
* `answers_draft` and `answers_check` are the two rounds of reading, `answers_ofEntries` is both.
* `Written.makesSense_iff`: values make sense when the later demands are met.
* `exists_written_of_ofEntries_eq_ok` and `Written.StandsIn.exists_ofEntries_eq_ok`: which values stand
  in mappings that hold settings.
* `acceptance_is_exact`: which mappings hold settings, which settings these are, and what is wrong with
  the others.
-/

set_option autoImplicit false

namespace SearchFilter

namespace Settings

/-! ## The values that settings are made from -/

theorem all_isText_map (texts : List String) :
    (texts.map Value.string).all (·.isText) = true := by
  rw [List.all_map]
  exact List.all_eq_true.2 fun _ _ ↦ rfl

/-- The queries of a mapping: none when there is nothing, one, or a list. -/
inductive QueriesIn : Option Value → List String → Prop
  | absent : QueriesIn none []
  | null : QueriesIn (some .null) []
  | one (query : String) : QueriesIn (some (.string query)) [query]
  | list (queries : List String) : QueriesIn (some (.list (queries.map .string))) queries

theorem QueriesIn.fault?_eq_none {value : Option Value} {queries : List String}
    (h : QueriesIn value queries) (key : String) : Kind.queries.fault? key value = none := by
  cases h with
  | absent => rfl
  | null => rfl
  | one query => rfl
  | list => exact if_pos (all_isText_map queries)

/-- The values that settings are made from, as they are written. -/
structure Written where
  level : String
  toFile : Bool
  logDir : String
  formats : List String
  outputDir : String
  queries : List String

namespace Written

/-- **Whether values stand in a mapping**, each where it belongs. -/
structure StandsIn (w : Written) (entries : Entries) : Prop where
  level : (Value.mapping entries).at? ["log", "level"] = some (.string w.level)
  toFile : (Value.mapping entries).at? ["log", "to_file"] = some (.bool w.toFile)
  logDir : (Value.mapping entries).at? ["log", "dir"] = some (.string w.logDir)
  formats : (Value.mapping entries).at? ["output", "formats"] =
    some (.list (w.formats.map .string))
  outputDir : (Value.mapping entries).at? ["output", "base_dir"] = some (.string w.outputDir)
  queries : QueriesIn (entries.get? "queries") w.queries

/-- **Whether values make sense.** -/
structure MakesSense (w : Written) : Prop where
  knownLevel : normalLevel w.level ∈ ["DEBUG", "INFO", "WARNING", "ERROR", "CRITICAL"]
  namedLogDir : w.toFile = true → isBlank w.logDir = false
  someFormat : ∃ name ∈ w.formats, normalFormat name ≠ ""
  knownFormats : ∀ name ∈ w.formats, normalFormat name ∈ ["", "console", "json"]
  namedOutputDir : (∃ name ∈ w.formats, normalFormat name = "json") → isBlank w.outputDir = false

/-- **The settings that values give.**  Formats are each named once, where they are named first. -/
structure Gives (w : Written) (settings : Settings) : Prop where
  level : settings.level.name = normalLevel w.level
  toFile : settings.toFile = w.toFile
  logDir : settings.logDir = w.logDir
  mem_formats_iff : ∀ name, name ∈ settings.formats.map (·.name) ↔
    name ≠ "" ∧ name ∈ w.formats.map normalFormat
  formats_pairwise : (settings.formats.map (·.name)).Pairwise fun x y ↦
    (w.formats.map normalFormat).idxOf x < (w.formats.map normalFormat).idxOf y
  outputDir : settings.outputDir = w.outputDir
  queries : settings.queries = w.queries

/-- What the first round makes of the values. -/
def draft (w : Written) : Draft :=
  ⟨normalLevel w.level, w.toFile, w.logDir, normalFormats w.formats, w.outputDir, w.queries⟩

end Written

/-! ## The first round -/

section Reading

variable {entries content : Entries} {α β : Type} {ds : List Demand} {good : α → Prop}
  {good' : β → Prop}

/-- A demand is met before the others are asked. -/
theorem answers_demand {d : Demand} {r : Except Error α} {next : α → Except Error β}
    (h : Answers r (d.fault? entries) good)
    (hnext : ∀ a, good a → Answers (next a) (ds.findSome? (·.fault? entries)) good') :
    Answers (r >>= next) ((d :: ds).findSome? (·.fault? entries)) good' := by
  have hor : (d :: ds).findSome? (·.fault? entries) =
      (d.fault? entries).or (ds.findSome? (·.fault? entries)) := by
    rw [List.findSome?_cons]
    cases d.fault? entries <;> rfl
  rw [hor]
  exact h.bind hnext

theorem at?_section (entries : Entries) (key : String) :
    (Value.mapping entries).at? [key] = entries.get? key := by
  rw [Value.at?]
  simp only [Value.at?_nil, Option.bind_fun_some]

theorem at?_field {key : String} (h : entries.get? key = some (.mapping content))
    (field : String) : (Value.mapping entries).at? [key, field] = content.get? field := by
  rw [Value.at?, h, Option.bind_some, at?_section]

theorem answers_readSection (entries : Entries) (key : String) :
    Answers (readSection entries key true) ((Demand.value [key] .mapping).fault? entries)
      fun content ↦ entries.get? key = some (.mapping content) := by
  have hkey : ".".intercalate [key] = key := rfl
  rw [Demand.fault?, at?_section, hkey, readSection]
  cases entries.get? key with
  | none => exact .error _
  | some v =>
    cases v with
    | mapping content => exact .ok rfl
    | _ => exact .error _

/-- A value of a section is read as what it is written as, before anything else is asked. -/
theorem answers_field {kind : Kind} {read : Value → Except Error α} {written : α → Value}
    {next : α → Except Error β} {parent field key : String}
    (hparent : entries.get? parent = some (.mapping content))
    (hkey : ".".intercalate [parent, field] = key)
    (hmissing : kind.fault? key none = some (.missing key))
    (hread : ∀ v, Answers (read v) (kind.fault? key (some v)) (v = written ·))
    (hnext : ∀ a, (Value.mapping entries).at? [parent, field] = some (written a) →
      Answers (next a) (ds.findSome? (·.fault? entries)) good') :
    Answers (require content field key >>= fun v ↦ read v >>= next)
      ((Demand.value [parent, field] kind :: ds).findSome? (·.fault? entries)) good' := by
  rw [← bind_assoc]
  refine answers_demand ?_ hnext
  rw [Demand.fault?, hkey, at?_field hparent, require]
  cases content.get? field with
  | none =>
    rw [hmissing]
    exact .error _
  | some v => exact (hread v).imp fun a ha ↦ congrArg some ha

theorem answers_asText (key : String) (v : Value) :
    Answers (asText key v) (Kind.text.fault? key (some v)) (v = .string ·) := by
  cases v with
  | string s => exact .ok rfl
  | _ => exact .error _

theorem answers_asBool (key : String) (v : Value) :
    Answers (asBool key v) (Kind.truth.fault? key (some v)) (v = .bool ·) := by
  cases v with
  | bool b => exact .ok rfl
  | _ => exact .error _

/-- A list of texts is read item by item, and the first that is no text is at fault. -/
theorem answers_textsFrom (key : String) (index : Nat) (items : List Value) :
    Answers (textsFrom key index items)
      (if items.all (·.isText) then none
        else some (.notTextAt key (index + items.findIdx (!·.isText))))
      (items = ·.map .string) := by
  induction items generalizing index with
  | nil => exact .ok rfl
  | cons v items ih =>
    cases v with
    | string s =>
      -- what is found behind the first text is counted from one further on
      have hbind : Answers (textsFrom key (index + 1) items >>= fun texts ↦ .ok (s :: texts)) _
          (Value.string s :: items = ·.map .string) :=
        (ih (index + 1)).bind fun texts htexts ↦ .ok (by simp [htexts])
      have hall : (Value.string s :: items).all (·.isText) = items.all (·.isText) := rfl
      have hindex : (Value.string s :: items).findIdx (!·.isText) =
          items.findIdx (!·.isText) + 1 := List.findIdx_cons
      rw [Option.or_none, Nat.add_assoc, Nat.add_comm 1] at hbind
      rw [hall, hindex]
      exact hbind
    | _ => exact .error _

theorem answers_asTexts (key : String) (v : Value) :
    Answers (asTexts key v) (Kind.texts.fault? key (some v))
      fun texts ↦ v = .list (texts.map .string) := by
  cases v with
  | list items =>
    have h := answers_textsFrom key 0 items
    rw [Nat.zero_add] at h
    exact h.imp fun texts htexts ↦ congrArg _ htexts
  | _ => exact .error _

theorem answers_readQueries (entries : Entries) :
    Answers (readQueries entries) ((Demand.value ["queries"] .queries).fault? entries)
      (QueriesIn (entries.get? "queries")) := by
  have hkey : ".".intercalate ["queries"] = "queries" := rfl
  rw [Demand.fault?, at?_section, hkey, readQueries]
  cases entries.get? "queries" with
  | none => exact .ok .absent
  | some v =>
    cases v with
    | null => exact .ok .null
    | string query => exact .ok (.one query)
    | list items =>
      have h := answers_textsFrom "queries" 0 items
      rw [Nat.zero_add] at h
      exact h.imp fun queries hqueries ↦ hqueries ▸ .list queries
    | _ => exact .error _

/-- **The first round** asks for the values one by one. -/
theorem answers_draft (entries : Entries) :
    Answers (Draft.ofEntries entries) (Demand.values.findSome? (·.fault? entries))
      fun draft ↦ ∃ w : Written, w.StandsIn entries ∧ w.draft = draft := by
  rw [Draft.ofEntries, Demand.values]
  refine answers_demand (answers_readSection entries "log") fun log hlog ↦ ?_
  refine answers_field hlog rfl rfl (answers_asText _) fun level hlevel ↦ ?_
  refine answers_field hlog rfl rfl (answers_asBool _) fun toFile htoFile ↦ ?_
  refine answers_field hlog rfl rfl (answers_asText _) fun logDir hlogDir ↦ ?_
  refine answers_demand (answers_readSection entries "output") fun output houtput ↦ ?_
  refine answers_field houtput rfl rfl (answers_asTexts _) fun formats hformats ↦ ?_
  refine answers_field houtput rfl rfl (answers_asText _) fun outputDir houtputDir ↦ ?_
  refine answers_demand (answers_readQueries entries) fun queries hqueries ↦ ?_
  exact .ok ⟨⟨level, toFile, logDir, formats, outputDir, queries⟩,
    ⟨hlevel, htoFile, hlogDir, hformats, houtputDir, hqueries⟩, rfl⟩

/-! ## The second round -/

/-- A check is passed before the others are made. -/
theorem answers_check_cons {d : Demand} {r : Except Error β} {c : Bool} {e : Error}
    (hfault : d.fault? entries = if c then some e else none)
    (hrest : c = false → Answers r (ds.findSome? (·.fault? entries)) good') :
    Answers (if c then .error e else r) ((d :: ds).findSome? (·.fault? entries)) good' := by
  rw [List.findSome?_cons, hfault]
  cases c with
  | true => exact .error e
  | false => exact hrest rfl

end Reading

namespace Written.StandsIn

variable {w : Written} {entries : Entries}

theorem formatNames_eq (h : w.StandsIn entries) :
    Demand.formatNames entries = normalFormats w.formats := by
  rw [Demand.formatNames, h.formats, textsOf_list_map]

theorem fault?_knownLevel (h : w.StandsIn entries) :
    Demand.knownLevel.fault? entries =
      if (Log.Level.ofName? (normalLevel w.level)).isNone then some .unknownLevel else none := by
  simp only [Demand.fault?, h.level]

theorem fault?_namedLogDir (h : w.StandsIn entries) :
    Demand.namedLogDir.fault? entries =
      if w.toFile && isBlank w.logDir then some .blankLogDir else none := by
  simp only [Demand.fault?, h.toFile, h.logDir]

theorem fault?_someFormat (h : w.StandsIn entries) :
    Demand.someFormat.fault? entries =
      if (normalFormats w.formats).isEmpty then some .noFormats else none := by
  rw [Demand.fault?, h.formatNames_eq]

theorem fault?_knownFormats (h : w.StandsIn entries) :
    Demand.knownFormats.fault? entries =
      if !((normalFormats w.formats).filter fun name ↦ (Format.ofName? name).isNone).isEmpty then
        some (.unknownFormats (((normalFormats w.formats).filter fun name ↦
          (Format.ofName? name).isNone).mergeSort (· ≤ ·)))
      else none := by
  rw [Demand.fault?, h.formatNames_eq]

theorem fault?_namedOutputDir (h : w.StandsIn entries) :
    Demand.namedOutputDir.fault? entries =
      if (normalFormats w.formats).contains "json" && isBlank w.outputDir then
        some .blankOutputDir else none := by
  simp only [Demand.fault?, h.outputDir, h.formatNames_eq]

/-- **The second round** asks whether the values make sense. -/
theorem answers_check (h : w.StandsIn entries) :
    Answers w.draft.check (Demand.checks.findSome? (·.fault? entries)) w.Gives := by
  have hlevel := h.fault?_knownLevel
  rw [Draft.check, Demand.checks]
  -- no check but the first depends on which level it is
  cases hname : Log.Level.ofName? w.draft.level with
  | none =>
    rw [show Log.Level.ofName? (normalLevel w.level) = none from hname] at hlevel
    rw [List.findSome?_cons, hlevel]
    exact .error _
  | some level =>
    rw [show Log.Level.ofName? (normalLevel w.level) = some level from hname] at hlevel
    rw [List.findSome?_cons, hlevel]
    refine answers_check_cons h.fault?_namedLogDir fun _ ↦ ?_
    refine answers_check_cons h.fault?_someFormat fun _ ↦ ?_
    refine answers_check_cons h.fault?_knownFormats fun hknown ↦ ?_
    refine answers_check_cons ?_ fun _ ↦ .ok ?_
    · rw [contains_filterMap_ofName?]
      exact h.fault?_namedOutputDir
    · have hnames := map_name_filterMap_ofName? (by simpa using hknown)
      exact
        { level := Log.Level.ofName?_eq_some_iff.1 hname
          toFile := rfl
          logDir := rfl
          mem_formats_iff := fun name ↦ by rw [hnames, Written.draft, mem_normalFormats_iff]
          formats_pairwise := by rw [hnames]; exact pairwise_idxOf_normalFormats w.formats
          outputDir := rfl
          queries := rfl }

/-- Values that stand where they belong are of the right kinds. -/
theorem fault?_eq_none (h : w.StandsIn entries) :
    ∀ d ∈ Demand.values, d.fault? entries = none := by
  have hsection : ∀ {key field : String} {v : Value},
      (Value.mapping entries).at? [key, field] = some v →
      (Demand.value [key] .mapping).fault? entries = none := by
    intro key field v hv
    rw [Value.at?, Option.bind_eq_some_iff] at hv
    obtain ⟨content, hcontent, hv⟩ := hv
    rw [Demand.fault?, at?_section, hcontent]
    cases content with
    | mapping content => rfl
    | _ => cases hv
  have htexts : ∀ {key : String} (texts : List String),
      Kind.texts.fault? key (some (.list (texts.map .string))) = none := fun texts ↦
    if_pos (all_isText_map texts)
  simp only [Demand.values, List.forall_mem_cons]
  refine ⟨hsection h.level, ?_, ?_, ?_, hsection h.formats, ?_, ?_, ?_, by simp⟩
  · rw [Demand.fault?, h.level]
    rfl
  · rw [Demand.fault?, h.toFile]
    rfl
  · rw [Demand.fault?, h.logDir]
    rfl
  · rw [Demand.fault?, h.formats, htexts]
  · rw [Demand.fault?, h.outputDir]
    rfl
  · rw [Demand.fault?, at?_section]
    exact h.queries.fault?_eq_none _

/-- **Values make sense** when the later demands are met. -/
theorem makesSense_iff (h : w.StandsIn entries) :
    w.MakesSense ↔ ∀ d ∈ Demand.checks, d.fault? entries = none := by
  have hnone : ∀ {c : Bool} {e : Error}, (if c then some e else none) = none ↔ c = false := by
    intro c e
    cases c <;> simp
  have hand : ∀ {b c : Bool}, (b && c) = false ↔ (b = true → c = false) := by decide
  simp only [Demand.checks, List.forall_mem_cons, h.fault?_knownLevel, h.fault?_namedLogDir,
    h.fault?_someFormat, h.fault?_knownFormats, h.fault?_namedOutputDir, hnone, hand,
    Bool.not_eq_false', Log.Level.isNone_ofName?_eq_false_iff, isEmpty_normalFormats_eq_false_iff,
    isEmpty_unknown_iff, contains_json_normalFormats_iff]
  constructor
  · rintro ⟨hlevel, hlogDir, hsome, hknown, houtputDir⟩
    exact ⟨hlevel, hlogDir, hsome, hknown, houtputDir, nofun⟩
  · rintro ⟨hlevel, hlogDir, hsome, hknown, houtputDir, -⟩
    exact ⟨hlevel, hlogDir, hsome, hknown, houtputDir⟩

end Written.StandsIn

/-! ## Both rounds -/

/-- **A mapping is read** demand by demand. -/
theorem answers_ofEntries (entries : Entries) :
    Answers (ofEntries entries) (Demand.all.findSome? (·.fault? entries))
      fun settings ↦ ∃ w : Written, w.StandsIn entries ∧ w.Gives settings := by
  rw [ofEntries, Demand.all, List.findSome?_append]
  refine (answers_draft entries).bind ?_
  rintro _ ⟨w, hw, rfl⟩
  exact hw.answers_check.imp fun settings hgives ↦ ⟨w, hw, hgives⟩

/-- Settings that a mapping holds are given by values that stand in it and make sense. -/
theorem exists_written_of_ofEntries_eq_ok {entries : Entries} {settings : Settings}
    (h : ofEntries entries = .ok settings) :
    ∃ w : Written, w.StandsIn entries ∧ w.MakesSense ∧ w.Gives settings := by
  have hanswers := answers_ofEntries entries
  obtain ⟨w, hw, hgives⟩ := hanswers.good_of_ok settings h
  refine ⟨w, hw, hw.makesSense_iff.2 fun d hd ↦ ?_, hgives⟩
  have hnone := List.findSome?_eq_none_iff.1 (hanswers.fault?_eq_none h)
  exact hnone d (List.mem_append_right _ hd)

/-- A mapping in which values stand that make sense holds settings. -/
theorem Written.StandsIn.exists_ofEntries_eq_ok {w : Written} {entries : Entries}
    (hw : w.StandsIn entries) (hsense : w.MakesSense) :
    ∃ settings, ofEntries entries = .ok settings := by
  have hanswers := answers_ofEntries entries
  have hnone : Demand.all.findSome? (·.fault? entries) = none :=
    List.findSome?_eq_none_iff.2 (List.forall_mem_append.2
      ⟨hw.fault?_eq_none, hw.makesSense_iff.1 hsense⟩)
  rw [hnone] at hanswers
  obtain ⟨settings, hsettings, -⟩ := hanswers.exists_ok
  exact ⟨settings, hsettings⟩

/-- **Which mappings hold settings.**  A mapping is accepted exactly when the values stand in it that
settings are made from, and make sense; the settings are those that these values give.  Otherwise the
fault is that of the first demand that is not met.  Its text names the key that the demand is about,
and it is a fault of kind when what stands there is of another kind. -/
theorem acceptance_is_exact [Surroundings] (entries : Entries) :
    ((∃ settings, ofEntries entries = .ok settings) ↔
      ∃ w : Written, w.StandsIn entries ∧ w.MakesSense) ∧
    (∀ settings, ofEntries entries = .ok settings →
      ∃ w : Written, w.StandsIn entries ∧ w.MakesSense ∧ w.Gives settings) ∧
    (∀ e, ofEntries entries = .error e ↔ ∃ before d after, Demand.all = before ++ d :: after ∧
      (∀ d' ∈ before, d'.fault? entries = none) ∧ d.fault? entries = some e) ∧
    ∀ (d : Demand) (e : Error), d.fault? entries = some e →
      (∃ before after : String, e.message = before ++ d.key ++ after) ∧
      (e.isMistyped = true ↔ d.IsMistyped entries) := by
  refine ⟨⟨?_, ?_⟩, fun settings ↦ exists_written_of_ofEntries_eq_ok, fun e ↦ ?_,
    fun d e hfault ↦ ?_⟩
  · rintro ⟨settings, hsettings⟩
    obtain ⟨w, hw, hsense, -⟩ := exists_written_of_ofEntries_eq_ok hsettings
    exact ⟨w, hw, hsense⟩
  · rintro ⟨w, hw, hsense⟩
    exact hw.exists_ofEntries_eq_ok hsense
  · rw [(answers_ofEntries entries).eq_error_iff, List.findSome?_eq_some_iff]
    simp only [and_comm]
  · obtain ⟨hkey, hkind⟩ := Demand.of_fault? hfault
    exact ⟨Error.exists_message_eq hkey, hkind⟩

/-- One mapping is accepted.  Of another the truth value is no truth value; that its level is not known
and that there is no output does not matter any more. -/
theorem acceptance_is_exact_of_two :
    ∃ accepted refused : Entries,
      accepted =
        [("log", .mapping [("level", .string " info"), ("to_file", .bool false), ("dir", .string "")]),
          ("output", .mapping [("base_dir", .string "out"),
            ("formats", .list [.string "JSON", .string " ", .string "console", .string "json"])]),
          ("queries", .string "a OR b")] ∧
      refused =
        [("log", .mapping [("level", .string "loud"), ("to_file", .string "yes")]),
          ("output", .null)] ∧
      (∃ settings, ofEntries accepted = .ok settings) ∧
      ofEntries refused = .error (.notBool "log.to_file") ∧
      (Demand.value ["log", "to_file"] .truth).IsMistyped refused := by
  refine ⟨_, _, rfl, rfl, ?_, ?_, ?_⟩
  · refine (acceptance_is_exact _).1.2
      ⟨⟨" info", false, "", ["JSON", " ", "console", "json"], "out", ["a OR b"]⟩, ?_, ?_⟩
    · exact ⟨rfl, rfl, rfl, rfl, rfl, .one _⟩
    · exact ⟨by decide +kernel, nofun, ⟨"JSON", by decide, by decide +kernel⟩, by decide +kernel,
        fun _ ↦ by decide⟩
  · refine ((acceptance_is_exact _).2.2.1 _).2
      ⟨[.value ["log"] .mapping, .value ["log", "level"] .text], _, _, rfl, ?_, rfl⟩
    exact List.forall_mem_cons.2 ⟨rfl, List.forall_mem_cons.2 ⟨rfl, nofun⟩⟩
  · exact ((acceptance_is_exact _).2.2.2 _ (.notBool "log.to_file") (by rfl)).2.1 rfl

end Settings
end SearchFilter
