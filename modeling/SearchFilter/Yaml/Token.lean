import SearchFilter.Yaml.Error

/-!
# Reading YAML: tokens

What the signs of a text amount to, with the starts and ends that indentation stands for made
explicit.
-/

set_option autoImplicit false

namespace SearchFilter
namespace Yaml

/-- A line about the document as a whole. -/
inductive Directive where
  /-- The version of the language. -/
  | version (major : Nat)
  /-- What a handle of tags stands for. -/
  | handle (handle lead : String)
  /-- A directive that changes nothing. -/
  | reserved
deriving DecidableEq, Repr

/-- A token of a document. -/
inductive Token where
  | directive (directive : Directive)
  | documentStart
  | documentEnd
  | blockSequenceStart
  | blockMappingStart
  | blockEnd
  | flowSequenceStart
  | flowSequenceEnd
  | flowMappingStart
  | flowMappingEnd
  | flowEntry
  | blockEntry
  | key
  | value
  | alias (name : String)
  | anchor (name : String)
  /-- A tag, the rest of it behind its handle; without a handle it stands for itself. -/
  | tag (handle : Option String) (suffix : String)
  /-- A text; what a plain one means depends on how it looks. -/
  | scalar (plain : Bool) (text : String)
  /-- What follows is no token. -/
  | broken (error : Error)
deriving DecidableEq, Repr

end Yaml
end SearchFilter
