import SearchFilter.Value
import SearchFilter.Yaml.Error

/-!
# What a document holds

A document can hold one value in several places, and a value can hold itself.  So what was read is a list
of values that refer to their members by number; a value is made of it as far down as it is asked for.

* `Shape` is one value with the numbers of its members, `Content` are all values of a document.
* `Content.value` is the value on top, cut behind some levels; `Content.entries` are its entries.
* `Content.mergesEndlessly` says that one document laid over another leads to no end.
* `Reader` is what reads a text as a document.
-/

set_option autoImplicit false

namespace SearchFilter
namespace Yaml

/-- The number of a value. -/
abbrev Ref := Nat

/-- One value of a document. -/
inductive Shape where
  | scalar (value : Value) (h : value.isScalar = true)
  | list (items : List Ref)
  /-- Of two entries with one key the later counts. -/
  | mapping (entries : List (String × Ref))

/-- The shape of nothing. -/
def Shape.nothing : Shape := scalar .null rfl

/-- The values of a document by their numbers, with one on top.  Behind the last number there is
nothing. -/
structure Content where
  shapes : Array Shape
  top : Ref

/-- What reads a text as a document. -/
abbrev Reader := String → Result Content

namespace Content

/-- The document of nothing. -/
def nothing : Content := ⟨#[.nothing], 0⟩

/-- The document of an empty mapping. -/
def empty : Content := ⟨#[.mapping []], 0⟩

/-- The shape of a number. -/
def shape (content : Content) (ref : Ref) : Shape :=
  content.shapes.getD ref .nothing

/-! ## Values -/

/-- Entries with their values, when these are known. -/
def entriesOf (values : Array Value) (entries : List (String × Ref)) : Entries :=
  entries.foldl (fun (known : Entries) (key, ref) => known.put key (values.getD ref .null)) []

/-- The value of a shape, when those of its members are known. -/
def ofShape (values : Array Value) : Shape → Value
  | .scalar value _ => value
  | .list items => .list (items.map fun item => values.getD item .null)
  | .mapping entries => .mapping (entriesOf values entries)

/-- All values, cut behind some levels: what is further down counts as nothing. -/
def values (content : Content) : (levels : Nat) → Array Value
  | 0 => #[]
  | levels + 1 =>
    let below := content.values levels
    content.shapes.map (ofShape below)

/-- **The value on top**, cut behind some levels. -/
def value (content : Content) (levels : Nat) : Value :=
  (content.values levels).getD content.top .null

/-- The entries of the value on top, cut behind some levels; there are none if it is no mapping. -/
def entries (content : Content) (levels : Nat) : Entries :=
  match content.value levels with
  | .mapping entries => entries
  | _ => []

/-! ## Merging -/

/-- The keys and values of a number. -/
def fields (content : Content) (ref : Ref) : List (String × Ref) :=
  match content.shape ref with
  | .mapping entries => entries
  | _ => []

/-- Whether a mapping has a number. -/
def isMapping (content : Content) (ref : Ref) : Bool :=
  match content.shape ref with
  | .mapping _ => true
  | _ => false

/-- What a key leads to. -/
def member? (content : Content) (ref : Ref) (key : String) : Option Ref :=
  (content.fields ref).reverse.lookup key

/-- The pairs of mappings that are merged when those of a pair are: what a key leads to in both. -/
def below (base upper : Content) (pair : Ref × Ref) : List (Ref × Ref) :=
  (upper.fields pair.2).filterMap fun (key, _) =>
    match base.member? pair.1 key, upper.member? pair.2 key with
    | some ref, some ref' =>
      if base.isMapping ref && upper.isMapping ref' then some (ref, ref') else none
    | _, _ => none

/-- Whether the merging of a pair leads some levels down. -/
def goesOn (base upper : Content) : (levels : Nat) → Ref × Ref → Bool
  | 0, _ => true
  | levels + 1, pair => (below base upper pair).any fun next => goesOn base upper levels next

/-- **Whether one document laid over another leads to no end.**  So it is if merging goes further down
than there are pairs of values, since then it comes to a pair again. -/
def mergesEndlessly (base upper : Content) : Bool :=
  goesOn base upper (base.shapes.size * upper.shapes.size + 1) (base.top, upper.top)

end Content
end Yaml
end SearchFilter
