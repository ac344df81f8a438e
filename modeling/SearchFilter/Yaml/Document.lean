import SearchFilter.Text.Base64
import SearchFilter.Value
import SearchFilter.Yaml.Reading

/-!
# Reading YAML: from nodes to values

A document becomes values in two rounds.  The first goes through it level by level and stops at the first
node that has no value; on the way mappings take over the entries that they are to.  The second makes the
values.

* `isScalar_of_scalarValue_eq_ok`: the value of a scalar has no members.
* `Document.check` is the first round, `Document.content` the second.
* `read` reads a text.
-/

set_option autoImplicit false

namespace SearchFilter
namespace Yaml

/-! ## Scalars -/

/-- The truth value of a word, however its letters are cased. -/
def truthOf (text : String) : Result Value :=
  let word := String.ofList (Unicode.lower text.toList)
  match truthWords.lookup word with
  | some b => .ok (.bool b)
  | none => .error (.notTruth word)

/-- The value of a text that is to be a date. -/
def momentOf (text : String) : Result Value :=
  match Timestamp.ofWord? (dropLastFeed text.toList) with
  | none => .error .notTimestamp
  | some t =>
    match t.fault? with
    | some e => .error e
    | none => .ok (.other false)

/-- The value of a text that is to be bytes. -/
def bytesOf (text : String) : Result Value :=
  if text.toList.all fun c => c.toNat < 128 then
    (ofOption (Text.decodeBase64? text.toList)).map fun bytes => .other bytes.isEmpty
  else .error .malformed

theorem isScalar_of_truthOf_eq_ok {text : String} {value : Value} (h : truthOf text = .ok value) :
    value.isScalar = true := by
  simp only [truthOf] at h
  split at h <;> cases h
  rfl

theorem isScalar_of_momentOf_eq_ok {text : String} {value : Value} (h : momentOf text = .ok value) :
    value.isScalar = true := by
  rw [momentOf] at h
  split at h
  · cases h
  · split at h <;> cases h
    rfl

theorem isScalar_of_bytesOf_eq_ok {text : String} {value : Value} (h : bytesOf text = .ok value) :
    value.isScalar = true := by
  rw [bytesOf] at h
  split at h
  · cases hbytes : ofOption (Text.decodeBase64? text.toList) <;> rw [hbytes] at h <;> cases h
    rfl
  · cases h

/-- The value of a scalar of a kind. -/
def scalarValue (kind : Kind) (text : String) : Result Value :=
  match kind with
  | .null => .ok .null
  | .bool => truthOf text
  | .int => (intValue text.toList).map .int
  | .float => (floatValue text.toList).map fun _ => .float text
  | .timestamp => momentOf text
  | .string => .ok (.string text)
  | .binary => bytesOf text
  | .merge | .default | .sequence | .mapping | .set | .pairs | .unknown => .error .malformed

theorem isScalar_of_scalarValue_eq_ok {kind : Kind} {text : String} {value : Value}
    (h : scalarValue kind text = .ok value) : value.isScalar = true := by
  cases kind with
  | null | string =>
    cases h
    rfl
  | merge | default | sequence | mapping | set | pairs | unknown => cases h
  | bool => exact isScalar_of_truthOf_eq_ok h
  | timestamp => exact isScalar_of_momentOf_eq_ok h
  | binary => exact isScalar_of_bytesOf_eq_ok h
  | int =>
    rw [scalarValue] at h
    cases hint : intValue text.toList <;> rw [hint] at h <;> cases h
    rfl
  | float =>
    rw [scalarValue] at h
    cases hfloat : floatValue text.toList <;> rw [hfloat] at h <;> cases h
    rfl

namespace Graph

/-- The value of a node that is to be a scalar.  A date has to be written as a scalar of its own. -/
def valueOfScalar (graph : Graph) (ref : Ref) : Result Value := do
  let kind := graph.kind ref
  let text ← graph.scalarText ref
  match kind, graph.node ref with
  | .timestamp, .mapping .. => throw .timestampOfMapping
  | _, _ => scalarValue kind text

theorem isScalar_of_valueOfScalar_eq_ok {graph : Graph} {ref : Ref} {value : Value}
    (h : graph.valueOfScalar ref = .ok value) : value.isScalar = true := by
  simp only [valueOfScalar, bind, Except.bind] at h
  split at h
  · cases h
  · split at h
    · cases h
    · exact isScalar_of_scalarValue_eq_ok h

end Graph

/-! ## The first round -/

/-- How far the first round has come. -/
structure Checking where
  graph : Graph
  /-- The collections that were met, in order. -/
  met : Array Ref := #[]
  /-- For each node whether it was met. -/
  known : Array Bool

/-- A step of the first round; it fails at a node that has no value. -/
abbrev Check := StateT Checking Result

/-- Meets a node.  A scalar is looked at at once, a collection later. -/
def meet (ref : Ref) : Check Unit := do
  let c ← get
  if c.known.getD ref false then return
  set { c with known := c.known.setIfInBounds ref true }
  match c.graph.kind ref with
  | .sequence | .mapping | .set | .pairs => modify fun c => { c with met := c.met.push ref }
  | .merge | .default | .unknown => throw .malformed
  | _ => let _ ← (c.graph.valueOfScalar ref : Result Value)

/-- Meets the keys and values of a mapping; no key may be a collection. -/
def meetEntries : List (Ref × Ref) → Check Unit
  | [] => return
  | (key, value) :: entries => do
    meet key
    if ((← get).graph.kind key).isCollection then throw .malformed
    meet value
    meetEntries entries

/-- Meets the pairs of a sequence of mappings, each of which has one entry. -/
def meetPairs : List Ref → Check Unit
  | [] => return
  | item :: items => do
    match (← get).graph.node item with
    | .mapping _ [(key, value)] =>
      meet key
      meet value
      meetPairs items
    | _ => throw .malformed

/-- Looks at a collection: lets it take over what it is to, and meets its members. -/
def lookAt (ref : Ref) : Check Unit := do
  let c ← get
  match c.graph.kind ref, c.graph.node ref with
  | .sequence, .sequence _ items => items.forM meet
  | .pairs, .sequence _ items => meetPairs items
  | .mapping, .mapping .. | .set, .mapping .. =>
    let graph ← (c.graph.merge ref : Result Graph)
    set { c with graph }
    meetEntries (graph.entries ref)
  | _, _ => throw .malformed

/-- Looks at the collections that are met, from an index on. -/
def lookAtAll (index : Nat) : (steps : Nat) → Check Unit
  | 0 => return
  | steps + 1 => do
    match (← get).met[index]? with
    | none => return
    | some ref =>
      lookAt ref
      lookAtAll (index + 1) steps

namespace Document

/-- **The first round**: the document with all entries taken over, or the fault that is found
first. -/
def check (document : Document) : Result Document := do
  let size := document.graph.nodes.size
  let round : Check Unit := do
    meet document.top
    lookAtAll 0 (size + 1)
  let (_, c) ← round.run { graph := document.graph, known := Array.replicate size false }
  return { document with graph := c.graph }

end Document

/-! ## The second round -/

namespace Graph

/-- The text of a key.  Keys that are no texts are left out, since nobody can ask for them. -/
def key? (graph : Graph) (ref : Ref) : Option String :=
  match graph.valueOfScalar ref with
  | .ok (.string name) => some name
  | _ => none

/-- The value of a node, when that of a pair has the number `pair`. -/
def shapeOf (graph : Graph) (pair ref : Ref) : Shape :=
  match graph.kind ref, graph.node ref with
  | .sequence, .sequence _ items => .list items
  | .pairs, .sequence _ items => .list (items.map fun _ => pair)
  | .mapping, .mapping _ entries =>
    .mapping (entries.filterMap fun (key, value) => (graph.key? key).map (·, value))
  | .set, .mapping _ entries => .scalar (.other entries.isEmpty) rfl
  | _, _ =>
    match h : graph.valueOfScalar ref with
    | .ok value => .scalar value (isScalar_of_valueOfScalar_eq_ok h)
    | .error _ => .nothing

end Graph

namespace Document

/-- **The second round**: the values of all nodes, and behind them that of a pair. -/
def content (document : Document) : Content :=
  let size := document.graph.nodes.size
  ⟨(Array.range size).map (document.graph.shapeOf size) |>.push (.scalar (.other false) rfl),
    document.top⟩

end Document

variable [Surroundings]

/-- **What a text holds.**  Where there is no document there is nothing. -/
def read (text : String) : Result Content := do
  match ← Document.ofTokens (tokens text.toList) with
  | none => return .nothing
  | some document => return (← document.check).content

end Yaml
end SearchFilter
