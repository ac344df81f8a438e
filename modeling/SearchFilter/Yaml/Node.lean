import SearchFilter.Yaml.Content
import SearchFilter.Yaml.Plain

/-!
# Reading YAML: nodes

A document is a graph of nodes: scalars, sequences and mappings, each of a kind.  Nodes are numbered,
and a collection holds the numbers of its members; so a node can be a member of several collections,
and of itself.

* `Graph` holds the nodes, `Graph.node` looks one up.
* `Graph.merge` lets a mapping have the entries that it takes over from others.
* `Graph.scalarText` is the text of a node that is to be a scalar.
-/

set_option autoImplicit false

namespace SearchFilter
namespace Yaml

/-- A node of a document. -/
inductive Node where
  | scalar (kind : Kind) (text : String)
  | sequence (kind : Kind) (items : List Ref)
  | mapping (kind : Kind) (entries : List (Ref × Ref))
deriving DecidableEq, Repr

/-- The kind of a node. -/
def Node.kind : Node → Kind
  | scalar kind _ | sequence kind _ | mapping kind _ => kind

/-- The node with another kind. -/
def Node.withKind (kind : Kind) : Node → Node
  | scalar _ text => .scalar kind text
  | sequence _ items => .sequence kind items
  | mapping _ entries => .mapping kind entries

/-- The node of nothing. -/
def Node.empty : Node := .scalar .null ""

/-- The nodes of a document by their numbers. -/
structure Graph where
  nodes : Array Node := #[]
deriving DecidableEq, Repr

namespace Graph

/-- The node of a number. -/
def node (graph : Graph) (ref : Ref) : Node :=
  (graph.nodes[ref]?).getD .empty

/-- The kind of the node of a number. -/
def kind (graph : Graph) (ref : Ref) : Kind :=
  (graph.node ref).kind

/-- The graph with another node under a number. -/
def put (graph : Graph) (ref : Ref) (node : Node) : Graph :=
  ⟨graph.nodes.setIfInBounds ref node⟩

/-- The entries of a mapping. -/
def entries (graph : Graph) (ref : Ref) : List (Ref × Ref) :=
  match graph.node ref with
  | .mapping _ entries => entries
  | _ => []

/-- The graph in which a mapping has other entries. -/
def putEntries (graph : Graph) (ref : Ref) (entries : List (Ref × Ref)) : Graph :=
  graph.put ref (.mapping (graph.kind ref) entries)

/-! ## Mappings that take over entries -/

/-- A step that changes the graph and fails where a mapping cannot take over what it is to. -/
abbrev Merging := StateT Graph Result

/-- The entries that the value of a merging key gives: those of a mapping, or of a list of mappings,
of which the first counts most.  Each of them first takes over what it is to, by `complete`. -/
def takenOver (complete : Ref → Merging Unit) (value : Ref) : Merging (List (Ref × Ref)) := do
  match (← get).node value with
  | .mapping .. =>
    complete value
    return (← get).entries value
  | .sequence _ items =>
    let lists ← items.mapM fun item => do
      match (← get).node item with
      | .mapping .. =>
        complete item
        return (← get).entries item
      | _ => throw .malformed
    return lists.reverse.flatten
  | .scalar .. => throw .malformed

/-- The entries that a mapping takes over, as far as its entries from an index on say so.  The entries
that say so go, and the key of a default becomes a text. -/
def takeFrom (complete : Ref → Merging Unit) (ref : Ref) (index : Nat) :
    (steps : Nat) → Merging (List (Ref × Ref))
  | 0 => return []
  | steps + 1 => do
    let graph ← get
    match (graph.entries ref)[index]? with
    | none => return []
    | some (key, value) =>
      match graph.kind key with
      | .merge =>
        set (graph.putEntries ref ((graph.entries ref).eraseIdx index))
        let taken ← takenOver complete value
        return taken ++ (← takeFrom complete ref index steps)
      | .default =>
        set (graph.put key ((graph.node key).withKind .string))
        takeFrom complete ref (index + 1) steps
      | _ => takeFrom complete ref (index + 1) steps

/-- Lets a mapping take over what it is to; its own entries come last, so that they win. -/
def completeTo : (depth : Nat) → Ref → Merging Unit
  | 0, _ => return
  | depth + 1, ref => do
    let steps := ((← get).entries ref).length
    let taken ← takeFrom (fun other => completeTo depth other) ref 0 steps
    if !taken.isEmpty then
      modify fun graph => graph.putEntries ref (taken ++ graph.entries ref)

/-- The number of merging keys in a graph.  Each lets one mapping go into others at most once. -/
def mergingKeys (graph : Graph) : Nat :=
  graph.nodes.foldl (fun n node =>
    match node with
    | .mapping _ entries => n + (entries.filter fun (key, _) => graph.kind key == .merge).length
    | _ => n) 0

/-- **The graph in which a mapping has taken over what it is to.** -/
def merge (graph : Graph) (ref : Ref) : Result Graph :=
  ((completeTo (graph.mergingKeys + 1) ref).run graph).map (·.2)

/-! ## Scalars -/

/-- The text of a node that is to be a scalar, as far as `steps` members lead. -/
def scalarTextTo (graph : Graph) : (steps : Nat) → Ref → Result String
  | 0, _ => .error .endless
  | steps + 1, ref =>
    match graph.node ref with
    | .scalar _ text => .ok text
    | .sequence .. => .error .malformed
    | .mapping _ entries =>
      match entries.find? fun (key, _) => graph.kind key == .default with
      | some (_, value) => graph.scalarTextTo steps value
      | none => .error .malformed

/-- **The text of a node that is to be a scalar**: its own, or that of the default of a mapping. -/
def scalarText (graph : Graph) (ref : Ref) : Result String :=
  graph.scalarTextTo (graph.nodes.size + 1) ref

end Graph
end Yaml
end SearchFilter
