import AssistedDialing.Settings.Basic
import AssistedDialing.Settings.Input

/-!
# Checking settings

`validate` turns unchecked values into settings or lists what is wrong with them. All settings are
checked, and the problems are listed in the order of the settings. A setting that may be a text or a
list has problems both as a text and as a list.
-/

namespace AssistedDialing.Settings

/-- What is wrong with a value. -/
inductive ProblemKind where
  | notText
  | undecodable
  | notList
  | notBool
  | unknownBool
  | notInteger
  | unknownInteger
  | fractional
  | outOfRange
  | notFinite
  deriving DecidableEq, Repr, Inhabited

namespace ProblemKind

/-- `kind.text` names the kind of a problem. -/
def text : ProblemKind → String
  | notText => "string_type"
  | undecodable => "string_unicode"
  | notList => "list_type"
  | notBool => "bool_type"
  | unknownBool => "bool_parsing"
  | notInteger => "int_type"
  | unknownInteger => "int_parsing"
  | fractional => "int_from_float"
  | outOfRange => "int_parsing_size"
  | notFinite => "finite_number"

end ProblemKind

/-- A problem: the way to the value, beginning with the name of the setting, and its kind. -/
structure Problem where
  path : List String
  kind : ProblemKind
  deriving DecidableEq, Repr, Inhabited

namespace Problem

/-- `problem.text` is the way to the value, with dots between its parts, and the kind. -/
def text (problem : Problem) : String :=
  ".".intercalate problem.path ++ ": " ++ problem.kind.text

/-- `problem.within part` is the problem of a value that is reached through `part`. -/
def within (part : String) (problem : Problem) : Problem :=
  { problem with path := part :: problem.path }

end Problem

/-- A checked value, or the problems of the value that was given. -/
abbrev Checked (α : Type) := Except (List Problem) α

namespace Checked

/-- `problems checked` is the problems that were found. -/
def problems {α : Type} : Checked α → List Problem
  | .ok _ => []
  | .error problems => problems

/-- `within part checked` is the check of a value that is reached through `part`. -/
def within {α : Type} (part : String) : Checked α → Checked α
  | .ok value => .ok value
  | .error problems => .error (problems.map (Problem.within part))

/-- `fail kind` is a check that found one problem. -/
def fail {α : Type} (kind : ProblemKind) : Checked α :=
  .error [⟨[], kind⟩]

end Checked

/-- `checkText input` accepts a text. -/
def checkText : Input → Checked String
  | .text value => .ok value
  | .undecodable => .fail .undecodable
  | _ => .fail .notText

/-- `checkOptionalText input` accepts a text or null. -/
def checkOptionalText : Input → Checked (Option String)
  | .null => .ok none
  | input => (checkText input).map some

/-- The texts that stand for true, in lower case. -/
def trueTexts : List String :=
  ["1", "on", "t", "true", "y", "yes"]

/-- The texts that stand for false, in lower case. -/
def falseTexts : List String :=
  ["0", "off", "f", "false", "n", "no"]

/-- `boolOfText? s` is the truth value that a text stands for, in any case of its ASCII letters. -/
def boolOfText? (s : String) : Option Bool :=
  let lowered := String.ofList (s.toList.map Char.toLower)
  if trueTexts.contains lowered then some true
  else if falseTexts.contains lowered then some false
  else none

/-- `boolOfInt? n` is the truth value that 0 or 1 stands for. -/
def boolOfInt? (n : Int) : Option Bool :=
  if n = 0 then some false else if n = 1 then some true else none

/-- `isWord n` holds for the integers of 64 bits. -/
def isWord (n : Int) : Bool :=
  decide (-(Nat.pow 2 63 : Int) ≤ n) && decide (n < Nat.pow 2 63)

/-- `integerOfFloat x` is the integer that a floating-point number equals. It must have less than 64
bits: the least integer of 64 bits is refused, for numbers outside of the range can be rounded to
it. -/
def integerOfFloat (x : Binary64) : Checked Int :=
  match x, x.integer? with
  | _, some value =>
      if value.natAbs < Nat.pow 2 63 then .ok value else .fail .outOfRange
  | .finite _ _ _, none => .fail .fractional
  | _, none => .fail .notFinite

/-- `checkBoolOf value?` accepts the truth value that was found for a value of a suitable type. -/
def checkBoolOf : Option Bool → Checked Bool
  | some value => .ok value
  | none => .fail .unknownBool

/-- `checkBool input` accepts a truth value, the texts for one, and numbers equal to 0 or 1. A
number that is no integer of 64 bits is not of a suitable type. -/
def checkBool : Input → Checked Bool
  | .bool value => .ok value
  | .text value => checkBoolOf (boolOfText? value)
  | .undecodable => .fail .unknownBool
  | .int value => if isWord value then checkBoolOf (boolOfInt? value) else .fail .notBool
  | .float value =>
      match integerOfFloat value with
      | .ok value => checkBoolOf (boolOfInt? value)
      | .error _ => .fail .notBool
  | _ => .fail .notBool

/-- `checkInt input` accepts an integer; a truth value counts as 0 or 1, and a floating-point number
without a fraction as an integer. -/
def checkInt : Input → Checked Int
  | .int value => .ok value
  | .bool value => .ok (if value then 1 else 0)
  | .float value => integerOfFloat value
  | .undecodable => .fail .unknownInteger
  | _ => .fail .notInteger

/-- `checkEmergencyItem input` accepts a text or an integer. -/
def checkEmergencyItem (input : Input) : Checked EmergencyItem :=
  match checkText input, checkInt input with
  | .ok value, _ => .ok (.text value)
  | _, .ok value => .ok (.number value)
  | asText, asNumber =>
      .error ((asText.within "str").problems ++ (asNumber.within "int").problems)

/-- `checkItemsFrom check index inputs` checks the items of a list whose first item has the number
`index`. -/
def checkItemsFrom {α : Type} (check : Input → Checked α) :
    Nat → List Input → Checked (List α)
  | _, [] => .ok []
  | index, input :: inputs =>
      match (check input).within (toString index), checkItemsFrom check (index + 1) inputs with
      | .ok item, .ok items => .ok (item :: items)
      | item, items => .error (item.problems ++ items.problems)

/-- `checkList check input` accepts a list of items that `check` accepts. -/
def checkList {α : Type} (check : Input → Checked α) : Input → Checked (List α)
  | .list inputs => checkItemsFrom check 0 inputs
  | _ => .fail .notList

/-- `checkItemList name check input` accepts a text, or a list of items that `check` accepts; `name`
is the name of the items in problems. -/
def checkItemList {α : Type} (name : String) (check : Input → Checked α) (input : Input) :
    Checked (ItemList α) :=
  match checkText input, checkList check input with
  | .ok value, _ => .ok (.csv value)
  | _, .ok items => .ok (.list items)
  | asText, asList =>
      .error ((asText.within "str").problems ++
        (asList.within ("list[" ++ name ++ "]")).problems)

/-- `checkField inputs field check default` checks a setting, which is `default` when it is not
configured. -/
def checkField {α : Type} (inputs : Inputs) (field : Field) (check : Input → Checked α)
    (default : α) : Checked α :=
  match inputs field with
  | some input => (check input).within field.name
  | none => .ok default

/-- The settings when nothing is configured. -/
def defaults : Settings := {}

/-- `validate inputs` is the settings that the unchecked values give. -/
def validate (inputs : Inputs) : Checked Settings :=
  let logLevel := checkField inputs .logLevel checkText defaults.logLevel
  let jsonLogging := checkField inputs .jsonLogging checkBool defaults.jsonLogging
  let supportedCountries := checkField inputs .supportedCountries (checkItemList "str" checkText)
    defaults.supportedCountries
  let extraEmergencyNumbers := checkField inputs .extraEmergencyNumbers
    (checkItemList "union[str,int]" checkEmergencyItem) defaults.extraEmergencyNumbers
  let simCountry := checkField inputs .simCountry checkOptionalText defaults.simCountry
  let networkCountry := checkField inputs .networkCountry checkOptionalText
    defaults.networkCountry
  match logLevel, jsonLogging, supportedCountries, extraEmergencyNumbers, simCountry,
    networkCountry with
  | .ok logLevel, .ok jsonLogging, .ok supportedCountries, .ok extraEmergencyNumbers,
    .ok simCountry, .ok networkCountry =>
      .ok ⟨logLevel, jsonLogging, supportedCountries, extraEmergencyNumbers, simCountry,
        networkCountry⟩
  | _, _, _, _, _, _ =>
      .error (logLevel.problems ++ jsonLogging.problems ++ supportedCountries.problems ++
        extraEmergencyNumbers.problems ++ simCountry.problems ++ networkCountry.problems)

/-- `problemsText problems` is the texts of all problems with semicolons between them. -/
def problemsText (problems : List Problem) : String :=
  "; ".intercalate (problems.map Problem.text)

/-- `problemCount problems` says how many problems there are. -/
def problemCount (problems : List Problem) : String :=
  toString problems.length ++ (if problems.length = 1 then " validation error" else
    " validation errors") ++ " for AssistDialSettings"

end AssistedDialing.Settings
