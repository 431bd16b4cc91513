import AssistedDialing.Text.Similarity

/-!
# Arguments

`Arguments.parse` separates the arguments of a command into options and operands. An option that
takes a value finds it behind an equals sign or in the next argument, whatever that looks like. Two
dashes end the options. An option of one letter can be joined with others.
-/

namespace AssistedDialing.CommandLine

/-- An option of a command. An option with a letter takes no value. -/
structure OptionSpec where
  name : String
  takesValue : Bool := false
  letter : Option Char := none
  deriving DecidableEq, Repr, Inhabited

/-- What is wrong with an option. Of an unknown option `similar` is the options it resembles. -/
inductive OptionError where
  | unknown (name : String) (similar : List String)
  | missingValue (name : String)
  | unexpectedValue (name : String)
  deriving DecidableEq, Repr, Inhabited

/-- The options in order, each with its value if it takes one, and the operands. -/
structure Arguments where
  options : List (String × Option String) := []
  operands : List String := []
  deriving DecidableEq, Repr, Inhabited

/-- What one argument gives: options, and the name of an option that takes the next argument. -/
structure OptionGroup where
  options : List (String × Option String) := []
  awaiting : Option String := none
  deriving DecidableEq, Repr, Inhabited

/-- `looksLikeOption argument` holds for a dash with something behind it. -/
def looksLikeOption (argument : String) : Bool :=
  match argument.toList with
  | '-' :: _ :: _ => true
  | _ => false

/-- `splitValue argument` is the name of an option and the value behind its equals sign. -/
def splitValue (argument : String) : String × Option String :=
  let name := argument.toList.takeWhile (· != '=')
  match argument.toList.drop name.length with
  | _ :: value => (String.ofList name, some (String.ofList value))
  | [] => (argument, none)

/-- `letterGroup specs letters` reads letters that stand for options. -/
def letterGroup (specs : List OptionSpec) : List Char → Except OptionError OptionGroup
  | [] => .ok {}
  | letter :: letters =>
      match specs.find? fun spec ↦ spec.letter == some letter with
      | none => .error (.unknown (String.ofList ['-', letter]) [])
      | some spec => (letterGroup specs letters).map fun group ↦
          { group with options := (spec.name, none) :: group.options }

/-- `optionGroup specs argument` reads an argument that looks like an option. -/
def optionGroup (specs : List OptionSpec) (argument : String) : Except OptionError OptionGroup :=
  let (name, value?) := splitValue argument
  match specs.find? fun spec ↦ spec.name = name with
  | some spec =>
      match spec.takesValue, value? with
      | true, some value => .ok { options := [(name, some value)] }
      | true, none => .ok { awaiting := some name }
      | false, none => .ok { options := [(name, none)] }
      | false, some _ => .error (.unexpectedValue name)
  | none =>
      match argument.toList with
      | '-' :: '-' :: _ =>
          .error (.unknown name (Text.closest name (specs.map OptionSpec.name)))
      | _ => letterGroup specs (argument.toList.drop 1)

namespace Arguments

/-- `withOptions given arguments` puts options in front. -/
def withOptions (given : List (String × Option String)) (arguments : Arguments) : Arguments :=
  { arguments with options := given ++ arguments.options }

/-- `parse specs mixed arguments` reads the arguments of a command with the options `specs`. Unless
`mixed` holds, everything from the first operand on is an operand. -/
def parse (specs : List OptionSpec) (mixed : Bool) :
    List String → Except OptionError Arguments
  | [] => .ok {}
  | argument :: rest =>
      if argument = "--" then .ok { operands := rest }
      else if looksLikeOption argument then
        match optionGroup specs argument with
        | .error error => .error error
        | .ok group =>
            match group.awaiting with
            | none => (parse specs mixed rest).map (withOptions group.options)
            | some name =>
                match rest with
                | value :: rest => (parse specs mixed rest).map (withOptions [(name, some value)])
                | [] => .error (.missingValue name)
      else if mixed then
        (parse specs mixed rest).map fun arguments ↦
          { arguments with operands := argument :: arguments.operands }
      else .ok { operands := argument :: rest }

/-- `arguments.has name` holds when an option is given. -/
def has (name : String) (arguments : Arguments) : Bool :=
  arguments.options.any fun option ↦ option.1 = name

/-- `arguments.value? name` is the last value that is given for an option. -/
def value? (name : String) (arguments : Arguments) : Option String :=
  ((arguments.options.reverse).lookup name).join

/-- `arguments.firstOf names` is the one of several options that is given first. -/
def firstOf (names : List String) (arguments : Arguments) : Option String :=
  (arguments.options.map Prod.fst).find? fun name ↦ names.contains name

end Arguments

end AssistedDialing.CommandLine
