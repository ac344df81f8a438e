import SearchFilter.Proofs.Value.Path
import SearchFilter.Settings.Read

/-!
# What settings have to be

A mapping is read as settings if it meets a list of demands: first that there are values of the right
kinds, and then that these make sense.  The fault that is reported is that of the first demand that is
not met.

* `Kind.fault?` is what can be wrong with one value.
* `Demand` lists what is asked of a mapping, `Demand.all` in the order in which it is asked, and
  `Demand.fault?` is what is wrong when it is not met.
* `Error.key?` is the key that an error is about; `Error.exists_message_eq` says that its text has
  that key in it.
* `Demand.of_fault?`: what the fault of a demand tells.
-/

set_option autoImplicit false

namespace SearchFilter

/-- Whether a value is a text. -/
def Value.isText : Value → Bool
  | string _ => true
  | _ => false

namespace Settings

/-! ## Kinds of values -/

/-- What a value of the settings has to be. -/
inductive Kind where
  /-- A section. -/
  | mapping
  | text
  /-- True or false. -/
  | truth
  /-- A list of texts. -/
  | texts
  /-- Nothing, a text, or a list of texts. -/
  | queries
deriving DecidableEq, Repr

namespace Kind

/-- Whether a value is of a kind. -/
def admits : Kind → Value → Bool
  | mapping, .mapping _ | text, .string _ | truth, .bool _ | queries, .string _ => true
  | texts, .list items | queries, .list items => items.all (·.isText)
  | _, _ => false

/-- The value that is found for a key.  A section and the queries can be left empty. -/
def found : Kind → Option Value → Option Value
  | mapping, some .null | queries, some .null => none
  | _, value => value

/-- What is wrong with a value that is not of a kind. -/
def mistyped (key : String) : Kind → Value → Error
  | mapping, _ => .notMapping key
  | text, _ => .notText key
  | truth, _ => .notBool key
  | texts, .list items | queries, .list items => .notTextAt key (items.findIdx (!·.isText))
  | texts, _ | queries, _ => .notList key

/-- **What is wrong with what stands under a key**, if anything is. -/
def fault? (kind : Kind) (key : String) (value : Option Value) : Option Error :=
  match kind.found value with
  | none => if kind = queries then none else some (.missing key)
  | some value => if kind.admits value then none else some (kind.mistyped key value)

end Kind

/-! ## Demands -/

/-- The texts in a list, or none if it is no list. -/
def textsOf : Option Value → List String
  | some (.list items) => items.filterMap fun
    | .string s => some s
    | _ => none
  | _ => []

@[simp]
theorem textsOf_list_map (texts : List String) :
    textsOf (some (.list (texts.map .string))) = texts := by
  rw [textsOf, List.filterMap_map]
  exact List.filterMap_some

/-- What is asked of a mapping. -/
inductive Demand where
  /-- What stands under a path of keys is of a kind. -/
  | value (path : List String) (kind : Kind)
  | knownLevel
  /-- If records go to a file there is a directory for it. -/
  | namedLogDir
  | someFormat
  | knownFormats
  /-- If results go to a file there is a directory for it. -/
  | namedOutputDir
deriving DecidableEq, Repr

namespace Demand

/-- What is asked of the values one by one. -/
def values : List Demand :=
  [value ["log"] .mapping, value ["log", "level"] .text, value ["log", "to_file"] .truth,
    value ["log", "dir"] .text, value ["output"] .mapping, value ["output", "formats"] .texts,
    value ["output", "base_dir"] .text, value ["queries"] .queries]

/-- What is asked of values of the right kinds. -/
def checks : List Demand :=
  [knownLevel, namedLogDir, someFormat, knownFormats, namedOutputDir]

/-- **All demands**, in the order in which they are asked. -/
def all : List Demand := values ++ checks

/-- The key by which messages call what a demand is about. -/
def key : Demand → String
  | value path _ => ".".intercalate path
  | knownLevel => "log.level"
  | namedLogDir => "log.dir"
  | someFormat | knownFormats => "output.formats"
  | namedOutputDir => "output.base_dir"

/-- The names of formats in a mapping, as they are compared. -/
def formatNames (entries : Entries) : List String :=
  normalFormats (textsOf ((Value.mapping entries).at? ["output", "formats"]))

/-- **What is wrong when a demand is not met.**  Values of wrong kinds are no matter of the later
demands. -/
def fault? (entries : Entries) : Demand → Option Error
  | value path kind => kind.fault? (".".intercalate path) ((Value.mapping entries).at? path)
  | knownLevel =>
    match (Value.mapping entries).at? ["log", "level"] with
    | some (.string name) =>
      if (Log.Level.ofName? (normalLevel name)).isNone then some .unknownLevel else none
    | _ => none
  | namedLogDir =>
    match (Value.mapping entries).at? ["log", "to_file"],
      (Value.mapping entries).at? ["log", "dir"] with
    | some (.bool toFile), some (.string dir) =>
      if toFile && isBlank dir then some .blankLogDir else none
    | _, _ => none
  | someFormat => if (formatNames entries).isEmpty then some .noFormats else none
  | knownFormats =>
    let unknown := (formatNames entries).filter fun name ↦ (Format.ofName? name).isNone
    if !unknown.isEmpty then some (.unknownFormats (unknown.mergeSort (· ≤ ·))) else none
  | namedOutputDir =>
    match (Value.mapping entries).at? ["output", "base_dir"] with
    | some (.string dir) =>
      if (formatNames entries).contains "json" && isBlank dir then some .blankOutputDir else none
    | _ => none

/-- Whether a demand is not met because there is a value, of another kind. -/
def IsMistyped (entries : Entries) : Demand → Prop
  | value path kind =>
    ∃ v, kind.found ((Value.mapping entries).at? path) = some v ∧ kind.admits v = false
  | _ => False

end Demand

/-! ## The texts of faults -/

/-- The key that an error is about. -/
def Error.key? : Error → Option String
  | missing key | notMapping key | notText key | notBool key | notList key | notTextAt key _ =>
    some key
  | unknownLevel => some "log.level"
  | blankLogDir => some "log.dir"
  | noFormats | unknownFormats _ => some "output.formats"
  | blankOutputDir => some "output.base_dir"
  | rootNotMapping => none

/-- **The text of an error names the key that it is about.** -/
theorem Error.exists_message_eq [Surroundings] {e : Error} {key : String} (h : e.key? = some key) :
    ∃ before after : String, e.message = before ++ key ++ after := by
  have hstart : ∀ {message : String} (after : String), message = key ++ after →
      ∃ before after : String, message = before ++ key ++ after := fun after hmessage ↦
    ⟨"", after, by rw [hmessage, String.empty_append]⟩
  cases e with
  | missing key' =>
    obtain rfl := Option.some.inj h
    exact ⟨"Missing required config: ", "", (String.append_empty).symm⟩
  | notMapping key' | notText key' | notBool key' | notList key' =>
    obtain rfl := Option.some.inj h
    exact hstart _ rfl
  | notTextAt key' index =>
    obtain rfl := Option.some.inj h
    have hmessage : (notTextAt key' index).message =
        key' ++ "[" ++ toString index ++ "] must be a string" := rfl
    refine hstart ("[" ++ toString index ++ "] must be a string") ?_
    rw [hmessage]
    simp only [String.append_assoc]
  | unknownLevel =>
    obtain rfl := Option.some.inj h
    have hlead : "log.level must be one of " = "log.level" ++ " must be one of " := rfl
    exact hstart _ ((congrArg (· ++ quotedList levelNames) hlead).trans String.append_assoc)
  | blankLogDir =>
    obtain rfl := Option.some.inj h
    exact hstart " must not be empty when log.to_file=true" rfl
  | noFormats =>
    obtain rfl := Option.some.inj h
    exact hstart " must include at least one format" rfl
  | unknownFormats names =>
    obtain rfl := Option.some.inj h
    have hlead : "output.formats has unknown formats: " =
        "output.formats" ++ " has unknown formats: " := rfl
    exact hstart _ ((congrArg (· ++ quotedList names) hlead).trans String.append_assoc)
  | blankOutputDir =>
    obtain rfl := Option.some.inj h
    exact hstart " must not be empty" rfl
  | rootNotMapping => cases h

theorem Kind.key?_mistyped (kind : Kind) (key : String) (value : Value) :
    (kind.mistyped key value).key? = some key := by
  cases kind <;> cases value <;> rfl

theorem Kind.isMistyped_mistyped (kind : Kind) (key : String) (value : Value) :
    (kind.mistyped key value).isMistyped = true := by
  cases kind <;> cases value <;> rfl

/-- What can be wrong with one value: that it is missing or that it is of another kind. -/
theorem Kind.fault?_eq_some_iff {kind : Kind} {key : String} {value : Option Value} {e : Error} :
    kind.fault? key value = some e ↔
      (kind.found value = none ∧ kind ≠ queries ∧ e = .missing key) ∨
      ∃ v, kind.found value = some v ∧ kind.admits v = false ∧ e = kind.mistyped key v := by
  rw [fault?]
  cases kind.found value with
  | none =>
    by_cases hkind : kind = queries <;> simp [hkind, @eq_comm _ e]
  | some v =>
    cases hadmits : kind.admits v <;> simp [hadmits, @eq_comm _ e]

namespace Demand

variable {entries : Entries} {d : Demand} {e : Error}

/-- **What the fault of a demand tells**: it is about the key of the demand, and it is one of kind when
there is a value of another kind. -/
theorem of_fault? (h : d.fault? entries = some e) :
    e.key? = some d.key ∧ (e.isMistyped = true ↔ d.IsMistyped entries) := by
  have hcheck : ∀ {c : Bool} {e' : Error}, (if c then some e' else none) = some e → e' = e := by
    intro c e' hfault
    exact Option.some.inj (Option.ite_none_right_eq_some.1 hfault).2
  cases d with
  | value path kind =>
    rw [fault?, Kind.fault?_eq_some_iff] at h
    rcases h with ⟨hnone, -, rfl⟩ | ⟨v, hv, hadmits, rfl⟩
    · refine ⟨rfl, iff_of_false Bool.false_ne_true ?_⟩
      rintro ⟨v, hv, -⟩
      rw [hnone] at hv
      cases hv
    · exact ⟨kind.key?_mistyped _ v, iff_of_true (kind.isMistyped_mistyped _ v) ⟨v, hv, hadmits⟩⟩
  | knownLevel =>
    simp only [fault?] at h
    split at h
    · rw [← hcheck h]
      exact ⟨rfl, iff_of_false Bool.false_ne_true id⟩
    · cases h
  | namedLogDir =>
    simp only [fault?] at h
    split at h
    · rw [← hcheck h]
      exact ⟨rfl, iff_of_false Bool.false_ne_true id⟩
    · cases h
  | someFormat =>
    rw [← hcheck h]
    exact ⟨rfl, iff_of_false Bool.false_ne_true id⟩
  | knownFormats =>
    rw [← hcheck h]
    exact ⟨rfl, iff_of_false Bool.false_ne_true id⟩
  | namedOutputDir =>
    simp only [fault?] at h
    split at h
    · rw [← hcheck h]
      exact ⟨rfl, iff_of_false Bool.false_ne_true id⟩
    · cases h

end Demand
end Settings
end SearchFilter
