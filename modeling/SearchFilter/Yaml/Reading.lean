import SearchFilter.Yaml.Lexer
import SearchFilter.Yaml.Node

/-!
# Reading YAML: from tokens to nodes

An alias stands for the node that its anchor names, be it one that is not complete yet.

* `Document` is a graph of nodes with one node on top.
* `Document.ofTokens` reads the one document of a list of tokens; there is none if the tokens do not
  fit together, if there are two documents, or if an alias stands for nothing.
-/

set_option autoImplicit false

namespace SearchFilter
namespace Yaml

/-- A graph of nodes with one node on top. -/
structure Document where
  graph : Graph
  top : Ref
deriving DecidableEq, Repr

/-! ## The state of reading -/

/-- What is left to read and what is known. -/
structure Reading where
  tokens : List Token
  graph : Graph := {}
  /-- The nodes that anchors name. -/
  anchors : List (String × Ref) := []
  /-- What the handles of tags stand for. -/
  handles : List (String × String)

/-- A step of reading; it fails where the tokens do not fit together. -/
abbrev Read := StateT Reading Result

/-- The failure that the tokens do not fit together. -/
def misfit {α : Type} : Read α :=
  throw .malformed

/-- The next token. -/
def peek? : Read (Option Token) := do
  match (← get).tokens.head? with
  | some (.broken e) => throw e
  | next => return next

/-- Whether the next token is one of these. -/
def sees (tokens : List Token) : Read Bool :=
  return (← peek?).any tokens.contains

/-- Goes on behind the next token. -/
def drop : Read Unit :=
  modify fun r => { r with tokens := r.tokens.tail }

/-- Goes on behind the next token if it is this one, and says whether it was. -/
def accept (token : Token) : Read Bool := do
  if ← sees [token] then
    drop
    return true
  else return false

/-- Goes on behind the next token, which has to be this one. -/
def expect (token : Token) : Read Unit := do
  if !(← accept token) then misfit

/-- The node that an anchor names. -/
def anchored (name : String) : Read Ref := do
  match (← get).anchors.lookup name with
  | some ref => return ref
  | none => misfit

/-- A new node, which its anchor names if it has one. -/
def addNode (anchor : Option String) (node : Node) : Read Ref := do
  let ref := (← get).graph.nodes.size
  modify fun r => { r with
    graph := ⟨r.graph.nodes.push node⟩
    anchors := (anchor.map fun name => (name, ref)).toList ++ r.anchors }
  return ref

/-- Says that a node is complete and what it is. -/
def complete (ref : Ref) (node : Node) : Read Ref := do
  modify fun r => { r with graph := r.graph.put ref node }
  return ref

/-- A new node of nothing. -/
def addEmpty : Read Ref := do
  complete (← addNode none .empty) .empty

/-! ## Anchors and tags -/

/-- What every tag of the language itself starts with. -/
def coreLead : String := "tag:yaml.org,2002:"

/-- The handles that are known from the start. -/
def coreHandles : List (String × String) := [("!", "!"), ("!!", coreLead)]

/-- The kind that a tag states. -/
def kindOfTag (tag : String) : Kind :=
  let kinds : List (String × Kind) :=
    [("null", .null), ("bool", .bool), ("int", .int), ("float", .float), ("timestamp", .timestamp),
      ("merge", .merge), ("value", .default), ("str", .string), ("binary", .binary),
      ("seq", .sequence), ("map", .mapping), ("set", .set), ("omap", .pairs), ("pairs", .pairs)]
  ((kinds.map fun (name, kind) => (coreLead ++ name, kind)).lookup tag).getD .unknown

/-- What is stated about a node before it. -/
structure Properties where
  anchor : Option String := none
  tag : Option String := none

/-- The kind that the tag states; the tag `!` states none. -/
def Properties.kind? (properties : Properties) : Option Kind :=
  (properties.tag.filter (· != "!")).map kindOfTag

/-- A tag with its handle replaced by what it stands for. -/
def fullTag (handle : Option String) (suffix : String) : Read String :=
  match handle with
  | none => return suffix
  | some handle => do
    match (← get).handles.lookup handle with
    | some lead => return lead ++ suffix
    | none => misfit

/-- An anchor, if one comes next; no anchor may be stated twice. -/
def readAnchor (properties : Properties) : Read Properties := do
  match ← peek? with
  | some (.anchor name) =>
    drop
    if ((← get).anchors.lookup name).isSome then misfit
    return { properties with anchor := some name }
  | _ => return properties

/-- A tag, if one comes next. -/
def readTag (properties : Properties) : Read Properties := do
  match ← peek? with
  | some (.tag handle suffix) =>
    drop
    return { properties with tag := some (← fullTag handle suffix) }
  | _ => return properties

/-- The anchor and the tag before a node, in either order. -/
def readProperties : Read Properties := do
  match ← peek? with
  | some (.anchor _) => readTag (← readAnchor {})
  | _ =>
    let properties ← readTag {}
    if properties.tag.isSome then readAnchor properties else return properties

/-! ## Nodes -/

/-- The kind of a scalar: what its tag states, or what it looks like if it is plain. -/
def scalarKind (properties : Properties) (plain : Bool) (text : String) : Kind :=
  match properties.kind? with
  | some kind => kind
  | none => if plain || properties.tag.isSome then kindOfPlain text else .string

/-- A new scalar. -/
def readScalar (properties : Properties) (plain : Bool) (text : String) : Read Ref := do
  let node := Node.scalar (scalarKind properties plain text) text
  complete (← addNode properties.anchor node) node

/-- A new sequence, whose items are still to be read. -/
def readSequence (properties : Properties) (items : Read (List Ref)) : Read Ref := do
  let kind := properties.kind?.getD .sequence
  let ref ← addNode properties.anchor (.sequence kind [])
  complete ref (.sequence kind (← items))

/-- A new mapping, whose entries are still to be read. -/
def readMapping (properties : Properties) (entries : Read (List (Ref × Ref))) : Read Ref := do
  let kind := properties.kind?.getD .mapping
  let ref ← addNode properties.anchor (.mapping kind [])
  complete ref (.mapping kind (← entries))

mutual

/-- A node.  `inBlock` says whether it may be a block collection, `afterKey` whether it may be a
sequence that is not indented deeper than the key before it. -/
def readNode (inBlock afterKey : Bool) : (steps : Nat) → Read Ref
  | 0 => misfit
  | steps + 1 => do
    if let some (.alias name) ← peek? then
      drop
      anchored name
    else
      let properties ← readProperties
      match ← peek? with
      | some (.scalar plain text) =>
        drop
        readScalar properties plain text
      | some .flowSequenceStart =>
        drop
        readSequence properties (readFlowItems true steps)
      | some .flowMappingStart =>
        drop
        readMapping properties (readFlowEntries true steps)
      | next =>
        if afterKey && next == some .blockEntry then
          readSequence properties (readLooseItems steps)
        else if inBlock && next == some .blockSequenceStart then
          drop
          readSequence properties (readBlockItems steps)
        else if inBlock && next == some .blockMappingStart then
          drop
          readMapping properties (readBlockEntries steps)
        else if properties.anchor.isSome || properties.tag.isSome then
          readScalar properties true ""
        else misfit
termination_by structural steps => steps

/-- A node, or the empty one if one of these tokens comes next. -/
def readUnless (stops : List Token) (inBlock afterKey : Bool) : (steps : Nat) → Read Ref
  | 0 => misfit
  | steps + 1 => do
    if ← sees stops then addEmpty else readNode inBlock afterKey steps
termination_by structural steps => steps

/-- The items of a block sequence, and its end. -/
def readBlockItems : (steps : Nat) → Read (List Ref)
  | 0 => misfit
  | steps + 1 => do
    if ← accept .blockEntry then
      let item ← readUnless [.blockEntry, .blockEnd] true false steps
      return item :: (← readBlockItems steps)
    else
      expect .blockEnd
      return []
termination_by structural steps => steps

/-- The items of a sequence that is not indented deeper than its key. -/
def readLooseItems : (steps : Nat) → Read (List Ref)
  | 0 => misfit
  | steps + 1 => do
    if ← accept .blockEntry then
      let item ← readUnless [.blockEntry, .key, .value, .blockEnd] true false steps
      return item :: (← readLooseItems steps)
    else return []
termination_by structural steps => steps

/-- The entries of a block mapping, and its end. -/
def readBlockEntries : (steps : Nat) → Read (List (Ref × Ref))
  | 0 => misfit
  | steps + 1 => do
    if ← accept .key then
      let key ← readUnless [.key, .value, .blockEnd] true true steps
      let value ← readValue [.key, .value, .blockEnd] true steps
      return (key, value) :: (← readBlockEntries steps)
    else
      expect .blockEnd
      return []
termination_by structural steps => steps

/-- The value behind a key, or the empty node if there is none. -/
def readValue (stops : List Token) (inBlock : Bool) : (steps : Nat) → Read Ref
  | 0 => misfit
  | steps + 1 => do
    if ← accept .value then readUnless stops inBlock inBlock steps else addEmpty
termination_by structural steps => steps

/-- The items of a sequence in brackets, and its end.  A key among them is a mapping of one entry. -/
def readFlowItems (first : Bool) : (steps : Nat) → Read (List Ref)
  | 0 => misfit
  | steps + 1 => do
    if ← accept .flowSequenceEnd then return []
    else
      if !first then expect .flowEntry
      if ← accept .flowSequenceEnd then return []
      else if ← accept .key then
        let key ← readUnless [.value, .flowEntry, .flowSequenceEnd] false false steps
        let value ← readValue [.flowEntry, .flowSequenceEnd] false steps
        let item ← readMapping {} (pure [(key, value)])
        return item :: (← readFlowItems false steps)
      else
        let item ← readNode false false steps
        return item :: (← readFlowItems false steps)
termination_by structural steps => steps

/-- The entries of a mapping in braces, and its end.  A node that is no key has no value. -/
def readFlowEntries (first : Bool) : (steps : Nat) → Read (List (Ref × Ref))
  | 0 => misfit
  | steps + 1 => do
    if ← accept .flowMappingEnd then return []
    else
      if !first then expect .flowEntry
      if ← accept .flowMappingEnd then return []
      else if ← accept .key then
        let key ← readUnless [.value, .flowEntry, .flowMappingEnd] false false steps
        let value ← readValue [.flowEntry, .flowMappingEnd] false steps
        return (key, value) :: (← readFlowEntries false steps)
      else
        let key ← readNode false false steps
        return (key, ← addEmpty) :: (← readFlowEntries false steps)
termination_by structural steps => steps

end

/-! ## Documents -/

/-- The directives before a document.  Of versions only the first is known, and neither a version nor
a handle may be stated twice. -/
def readDirectives (versioned : Bool) : (steps : Nat) → Read Unit
  | 0 => misfit
  | steps + 1 => do
    match ← peek? with
    | some (.directive (.version major)) =>
      if versioned || major != 1 then misfit
      drop
      readDirectives true steps
    | some (.directive (.handle handle lead)) =>
      let known := (← get).handles
      if (known.take (known.length - coreHandles.length)).any (·.1 == handle) then misfit
      drop
      modify fun r => { r with handles := (handle, lead) :: r.handles }
      readDirectives versioned steps
    | some (.directive .reserved) =>
      drop
      readDirectives versioned steps
    | _ => return

/-- The marks at the end of a document. -/
def dropDocumentEnds : (steps : Nat) → Read Unit
  | 0 => return
  | steps + 1 => do
    if ← accept .documentEnd then dropDocumentEnds steps

/-- Whether a directive comes next. -/
def seesDirective : Read Bool := do
  match ← peek? with
  | some (.directive _) => return true
  | _ => return false

/-- A document, and nothing behind it. -/
def readDocument (steps : Nat) : Read Ref := do
  let explicit := (← seesDirective) || (← sees [.documentStart])
  if explicit then
    readDirectives false steps
    expect .documentStart
  let bare := (← peek?).isNone || (← seesDirective) || (← sees [.documentStart, .documentEnd])
  let node ← if explicit && bare then addEmpty else readNode true false steps
  dropDocumentEnds steps
  if (← peek?).isSome then misfit
  return node

/-- **The document of a list of tokens**, if there are any.  No step of reading goes deeper than there
are tokens. -/
def Document.ofTokens (tokens : List Token) : Result (Option Document) :=
  match tokens with
  | [] => .ok none
  | tokens => do
    let (top, r) ← (readDocument (4 * tokens.length + 4)).run { tokens, handles := coreHandles }
    return some ⟨r.graph, top⟩

end Yaml
end SearchFilter
