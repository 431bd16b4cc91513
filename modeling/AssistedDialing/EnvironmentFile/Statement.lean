import AssistedDialing.Text.Blank

/-!
# Statements of an environment file

An environment file gives values to variables, one statement a line. A value may stand between
quotation marks and then go on over several lines. `statements` reads a whole file; a statement that
cannot be read is skipped up to the end of the line where reading stopped.
-/

namespace AssistedDialing.EnvironmentFile

open Text

/-- A statement: nothing, a variable that is given a value or only named, or a statement that cannot
be read, with the number of the line where it starts. -/
inductive Statement where
  | blank
  | binding (name : String) (value : Option String)
  | unreadable (line : Nat)
  deriving DecidableEq, Repr, Inhabited

/-- What was read and the rest of the text, or the place where reading stopped. -/
abbrev Parsed (α : Type) := Except (List Char) (α × List Char)

/-- `isSpacing c` holds for the blanks within a line. -/
def isSpacing (c : Char) : Bool :=
  isBlank c && c != '\n' && c != '\r'

/-- `isNameChar c` holds for the characters of a name without quotation marks. -/
def isNameChar (c : Char) : Bool :=
  !isBlank c && c != '=' && c != '#'

/-- `endsLine c` holds for the characters that end a line. -/
def endsLine (c : Char) : Bool :=
  c == '\n' || c == '\r'

/-- `skipSpacing cs` drops the blanks within a line at the beginning. -/
def skipSpacing (cs : List Char) : List Char :=
  cs.dropWhile isSpacing

/-- `skipExport cs` drops the word `export` and the blanks behind it. -/
def skipExport (cs : List Char) : List Char :=
  let word := "export".toList
  let rest := cs.drop word.length
  if word.isPrefixOf cs && rest.head?.any isSpacing then skipSpacing rest else cs

/-- `name cs` reads the name of a variable, if the line is not a comment. -/
def name (cs : List Char) : Parsed (Option String) :=
  match cs with
  | '#' :: _ => .ok (none, cs)
  | '\'' :: quoted =>
      let chars := quoted.takeWhile (· != '\'')
      match quoted.drop chars.length with
      | _ :: rest => if chars.isEmpty then .error cs else .ok (some (String.ofList chars), rest)
      | [] => .error cs
  | _ =>
      let chars := cs.takeWhile isNameChar
      if chars.isEmpty then .error cs
      else .ok (some (String.ofList chars), cs.drop chars.length)

/-- `atMark? mark cs` splits `cs` at the first quotation mark. A character behind a backslash is no
quotation mark, and a backslash behind a backslash starts nothing. -/
def atMark? (mark : Char) : List Char → Option (List Char × List Char)
  | [] => none
  | '\\' :: c :: cs => (atMark? mark cs).map fun (before, rest) ↦ ('\\' :: c :: before, rest)
  | c :: cs =>
      if c = mark then some ([], cs)
      else (atMark? mark cs).map fun (before, rest) ↦ (c :: before, rest)

/-- `unescaped escapes cs` replaces each backslash and the character behind it by the character that
`escapes` gives for the latter, if it gives one. -/
def unescaped (escapes : List (Char × Char)) : List Char → List Char
  | '\\' :: c :: cs =>
      match escapes.lookup c with
      | some meant => meant :: unescaped escapes cs
      | none => '\\' :: unescaped escapes (c :: cs)
  | c :: cs => c :: unescaped escapes cs
  | [] => []

/-- The escapes between single quotation marks. -/
def singleEscapes : List (Char × Char) :=
  [('\\', '\\'), ('\'', '\'')]

/-- The escapes between double quotation marks. -/
def doubleEscapes : List (Char × Char) :=
  [('\\', '\\'), ('\'', '\''), ('\"', '\"'), ('a', '\x07'), ('b', '\x08'), ('f', '\x0c'),
   ('n', '\n'), ('r', '\r'), ('t', '\t'), ('v', '\x0b')]

/-- `quotedValue mark escapes cs` reads a value from behind its first quotation mark. -/
def quotedValue (mark : Char) (escapes : List (Char × Char)) (cs : List Char) : Parsed String :=
  match atMark? mark cs with
  | some (chars, rest) => .ok (String.ofList (unescaped escapes chars), rest)
  | none => .error (mark :: cs)

/-- `uncommented afterBlank cs` is `cs` without a comment, which starts behind a blank. `afterBlank`
holds when a blank precedes `cs`. -/
def uncommented : Bool → List Char → List Char
  | _, [] => []
  | afterBlank, c :: cs =>
      if afterBlank && c == '#' then [] else c :: uncommented (isBlank c) cs

/-- `value afterBlank cs` reads a value. `afterBlank` holds when a blank precedes `cs`. -/
def value (afterBlank : Bool) (cs : List Char) : Parsed String :=
  match cs with
  | '\'' :: quoted => quotedValue '\'' singleEscapes quoted
  | '\"' :: quoted => quotedValue '\"' doubleEscapes quoted
  | _ =>
      let line := cs.takeWhile fun c ↦ !endsLine c
      .ok (String.ofList (trimEnd (uncommented afterBlank line)), cs.drop line.length)

/-- `assigned cs` reads a value behind an equals sign, if there is one. -/
def assigned (cs : List Char) : Parsed (Option String) :=
  match cs with
  | '=' :: rest =>
      let start := skipSpacing rest
      (value (start.length < rest.length) start).map fun (value, rest) ↦ (some value, rest)
  | _ => .ok (none, cs)

/-- `skipComment cs` drops a comment. -/
def skipComment (cs : List Char) : List Char :=
  match skipSpacing cs with
  | '#' :: rest => rest.dropWhile fun c ↦ !endsLine c
  | _ => cs

/-- `endOfLine cs` drops the end of a line, which must be all that is left of it. -/
def endOfLine (cs : List Char) : Parsed Unit :=
  match skipSpacing cs with
  | [] => .ok ((), [])
  | '\r' :: '\n' :: rest => .ok ((), rest)
  | c :: rest => if endsLine c then .ok ((), rest) else .error cs

/-- `binding cs` reads a statement that is not blank, with the end of its line. -/
def binding (cs : List Char) : Except (List Char) (Statement × List Char) := do
  let (name, rest) ← name (skipExport cs)
  let (value, rest) ← assigned (skipSpacing rest)
  let (_, rest) ← endOfLine (skipComment rest)
  match name with
  | some name => return (.binding name value, rest)
  | none => return (.blank, rest)

/-- `statement line cs` reads the next statement and the blank lines before it, which start on the
line with the number `line`. -/
def statement (line : Nat) (cs : List Char) : Statement × List Char :=
  let rest := trimStart cs
  if rest.isEmpty then (.blank, [])
  else match binding rest with
    | .ok read => read
    | .error rest => (.unreadable line, (rest.dropWhile fun c ↦ !endsLine c).drop 1)

/-- `statementsFrom fuel line cs` reads all statements of `cs`, which starts on the line `line`. -/
def statementsFrom : Nat → Nat → List Char → List Statement
  | 0, _, _ => []
  | fuel + 1, line, cs =>
      if cs.isEmpty then []
      else
        let (first, rest) := statement line cs
        let lines := (cs.take (cs.length - rest.length)).count '\n'
        first :: statementsFrom fuel (line + lines) rest

/-- `withoutMark cs` drops the byte order mark that `cs` may start with. -/
def withoutMark : List Char → List Char
  | '\ufeff' :: cs => cs
  | cs => cs

/-- `statements text` reads all statements of a text. -/
def statements (text : String) : List Statement :=
  let cs := withoutMark text.toList
  statementsFrom (cs.length + 1) 1 cs

end AssistedDialing.EnvironmentFile
