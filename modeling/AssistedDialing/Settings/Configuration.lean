import AssistedDialing.Settings.Input
import AssistedDialing.Text.Utf8
import AssistedDialing.Yaml.Evaluation

/-!
# Configured values

The unchecked values that a YAML document and variables give for the settings. A document that is no
mapping gives none. Of several entries with one key the last counts.
-/

namespace AssistedDialing.Settings

namespace Input

/-- `ofBytes bytes` is the text that the bytes encode, if they do. -/
def ofBytes (bytes : List UInt8) : Input :=
  match Text.decodeUtf8 bytes with
  | .ok value => text value
  | .error _ => undecodable

mutual

/-- `ofContent content` is the unchecked value that a part of a document gives. A set is a list of
its items, and dates, mappings and pairs suit no setting. -/
def ofContent : Yaml.Content → Input
  | .null => null
  | .bool value => bool value
  | .int value => int value
  | .float value => float value
  | .text value => text value
  | .bytes value => ofBytes value
  | .list items => list (itemsOfContent items)
  | .set items => list (itemsOfContent items)
  | .pairs items => list (items.map fun _ ↦ other)
  | .time _ => other
  | .mapping _ => other

/-- `itemsOfContent items` is the unchecked value of each item. -/
def itemsOfContent : List Yaml.Content → List Input
  | [] => []
  | item :: items => ofContent item :: itemsOfContent items

end

end Input

namespace Inputs

/-- `named? pair` is the entry of a mapping whose key is a text. -/
def named? : Yaml.Content × Yaml.Content → Option (String × Input)
  | (.text name, value) => some (name, .ofContent value)
  | _ => none

/-- `ofContent content` is the values that a document gives. -/
def ofContent : Yaml.Content → Inputs
  | .mapping pairs => ofNamed (pairs.filterMap named?).reverse
  | _ => empty

/-- `ofEnvironment environment` is the values that the variables of an environment give. -/
def ofEnvironment (environment : String → Option String) : Inputs :=
  fun field ↦ (environment field.variableName).map Input.text

end Inputs

end AssistedDialing.Settings
