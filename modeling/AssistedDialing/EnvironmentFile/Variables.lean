import AssistedDialing.EnvironmentFile.Statement
import AssistedDialing.Log.Entry

/-!
# The variables of an environment file

A value may refer to other variables as `${NAME}` or `${NAME:-default}`. A reference takes the value
that the file gave the variable so far, or else the one in the environment, or else the default.
`lookup` is the values that a file gives, and `warnings` is the log of reading it.
-/

namespace AssistedDialing.EnvironmentFile

/-- A reference to a variable, and the text behind it. -/
structure Reference where
  name : String
  default : String := ""
  rest : List Char
  deriving DecidableEq, Repr, Inhabited

/-- `reference? cs` reads a reference from behind its opening brace. -/
def reference? (cs : List Char) : Option Reference :=
  let name := cs.takeWhile fun c ↦ c != '\x7d' && c != ':'
  match cs.drop name.length with
  | '\x7d' :: rest => some ⟨String.ofList name, "", rest⟩
  | ':' :: '-' :: more =>
      let default := more.takeWhile (· != '\x7d')
      match more.drop default.length with
      | _ :: rest => some ⟨String.ofList name, String.ofList default, rest⟩
      | [] => none
  | _ => none

/-- `referenced cs` is the names that the references in `cs` can have. -/
def referenced : List Char → List String
  | '$' :: '\x7b' :: cs =>
      String.ofList (cs.takeWhile fun c ↦ c != '\x7d' && c != ':') :: referenced cs
  | _ :: cs => referenced cs
  | [] => []

/-- `expandedFrom lookup fuel cs` replaces the references in `cs`. -/
def expandedFrom (lookup : String → Option String) : Nat → List Char → List Char
  | 0, cs => cs
  | _ + 1, [] => []
  | fuel + 1, c :: cs =>
      let reference := match c, cs with
        | '$', '\x7b' :: rest => reference? rest
        | _, _ => none
      match reference with
      | some reference =>
          ((lookup reference.name).getD reference.default).toList ++
            expandedFrom lookup fuel reference.rest
      | none => c :: expandedFrom lookup fuel cs

/-- `expanded lookup text` replaces the references in a text. -/
def expanded (lookup : String → Option String) (text : String) : String :=
  String.ofList (expandedFrom lookup text.toList.length text.toList)

/-- Variables by their names, the latest first. A variable without a value is named only. -/
abbrev Variables := List (String × Option String)

/-- `assign environment known statement` carries a statement out. A reference to a variable that is
named only is empty. -/
def assign (environment : String → Option String) (known : Variables) :
    Statement → Variables
  | .binding name value =>
      let lookup (name : String) := match known.lookup name with
        | some value => some (value.getD "")
        | none => environment name
      (name, value.map (expanded lookup)) :: known
  | _ => known

/-- `lookup environment text name` is the value that the file `text` gives a variable. -/
def lookup (environment : String → Option String) (text name : String) : Option String :=
  (((statements text).foldl (assign environment) []).lookup name).join

/-- `warning? statement` is what is logged about a statement. -/
def warning? : Statement → Option Log.Entry
  | .unreadable line => some
      { level := Log.Level.warning
        logger := "dotenv.main"
        message := "python-dotenv could not parse statement starting at line " ++ toString line }
  | _ => none

/-- `warnings text` is the log of reading the file `text`. -/
def warnings (text : String) : List Log.Entry :=
  (statements text).filterMap warning?

end AssistedDialing.EnvironmentFile
