/-!
# Tokens of YAML

A YAML text is a sequence of tokens. Where a block collection begins and ends is shown by the
indentation alone; it has tokens of its own.
-/

namespace AssistedDialing.Yaml

/-- A directive at the head of a document. Unknown directives are ignored. -/
inductive Directive where
  | version (major : Nat)
  | tag (handle start : String)
  | unknown
  deriving DecidableEq, Repr, Inhabited

/-- The tag of a node as it is written: a handle, unless the tag is complete, and the rest. -/
structure WrittenTag where
  handle : Option String
  suffix : String
  deriving DecidableEq, Repr, Inhabited

/-- A token. -/
inductive Token where
  | directive (directive : Directive)
  | documentStart
  | documentEnd
  | streamEnd
  | blockSequenceStart
  | blockMappingStart
  | blockEnd
  | flowSequenceStart
  | flowSequenceEnd
  | flowMappingStart
  | flowMappingEnd
  | blockEntry
  | flowEntry
  | key
  | value
  | alias (name : String)
  | anchor (name : String)
  | tag (tag : WrittenTag)
  | scalar (text : String) (plain : Bool)
  deriving DecidableEq, Repr, Inhabited

end AssistedDialing.Yaml
