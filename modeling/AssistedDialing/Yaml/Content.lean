import AssistedDialing.Text.Base64
import AssistedDialing.Yaml.Resolution

/-!
# Values

`Content` is the values that the nodes of a YAML document have. `scalarContent` reads the value of a
scalar by its tag.
-/

namespace AssistedDialing.Yaml

/-- A value. -/
inductive Content where
  | null
  | bool (value : Bool)
  | int (value : Int)
  | float (value : Binary64)
  | text (value : String)
  | bytes (value : List UInt8)
  | time (stamp : Timestamp)
  | list (items : List Content)
  | set (items : List Content)
  | pairs (items : List (Content × Content))
  | mapping (items : List (Content × Content))
  deriving Repr, Inhabited

/-- The truth values by their words in lower case. -/
def boolValues : List (String × Bool) :=
  [("yes", true), ("no", false), ("true", true), ("false", false), ("on", true), ("off", false)]

/-- `scalarContent tag text` is the value of a scalar. -/
def scalarContent (tag : Tag) (text : String) : Except Failure Content :=
  match tag with
  | .null => .ok .null
  | .str => .ok (.text text)
  | .bool =>
      let lowered := Text.lower text
      match boolValues.lookup lowered with
      | some value => .ok (.bool value)
      | none => .error (.notBool lowered)
  | .int => (integer text).map .int
  | .float => (float text).map .float
  | .binary =>
      if text.toList.all fun c ↦ c.toNat < 0x80 then
        match Text.decodeBase64? text.toList with
        | some bytes => .ok (.bytes bytes)
        | none => .error .malformed
      else .error .malformed
  | .timestamp =>
      match Timestamp.ofChars? (withoutLineFeed text.toList) with
      | none => .error .notTimestamp
      | some stamp =>
          match stamp.failure? with
          | some failure => .error (.badDate failure)
          | none => .ok (.time stamp)
  | _ => .error .malformed

end AssistedDialing.Yaml
