/-!
# Tags

The tag of a node says what kind of value the node has. The tags that have values here are those of
the YAML type repository; a node with another tag has no value.
-/

namespace AssistedDialing.Yaml

/-- The tag of a node. -/
inductive Tag where
  | null
  | bool
  | int
  | float
  | binary
  | timestamp
  | omap
  | pairs
  | set
  | str
  | seq
  | map
  | merge
  | value
  | other (name : String)
  deriving DecidableEq, Repr, Inhabited

namespace Tag

/-- What the names of the tags of the type repository start with. -/
def standardStart : String := "tag:yaml.org,2002:"

/-- The names of the tags of the type repository, without their common start. -/
def standardNames : List (String × Tag) :=
  [("null", null), ("bool", bool), ("int", int), ("float", float), ("binary", binary),
   ("timestamp", timestamp), ("omap", omap), ("pairs", pairs), ("set", set), ("str", str),
   ("seq", seq), ("map", map), ("merge", merge), ("value", value)]

/-- `ofName name` is the tag called `name`. -/
def ofName (name : String) : Tag :=
  match standardNames.find? fun (ending, _) ↦ standardStart ++ ending == name with
  | some (_, tag) => tag
  | none => other name

end Tag

end AssistedDialing.Yaml
