import AssistedDialing.DigitLimit
import AssistedDialing.Value.Display

/-!
# Message templates

A log message is a template and its arguments. In the template a percent sign starts a conversion:
`%s` stands for the next argument as it is displayed, `%r` for its literal, `%d` and `%i` for its
integer part, and `%%` for a percent sign. Before the letter may stand the name of a field in
parentheses, flags, a width and a precision. `specs` reads a template as a list of pieces, and
`Arguments.format` fills them in.
-/

namespace AssistedDialing.Log

open Text

/-- The field that a conversion names: none, a name, or a name without a closing parenthesis. -/
inductive FieldName where
  | next
  | named (name : List Char)
  | unclosed
  deriving DecidableEq, Repr, Inhabited

/-- A conversion in a template. The letter is absent when the template ends before it; `index` is
the position of the letter in the template. -/
structure Conversion where
  field : FieldName
  flags : List Char
  width : Nat
  precision : Option Nat
  letter : Option Char
  index : Nat
  deriving DecidableEq, Repr, Inhabited

/-- A piece of a template: a character that stands for itself, or a conversion. -/
inductive Piece where
  | literal (c : Char)
  | conversion (conversion : Conversion)
  deriving DecidableEq, Repr, Inhabited

/-- `closing depth cs` is the characters of `cs` before the parenthesis that closes `depth` open
ones, and those behind it. -/
def closing : Nat → List Char → Option (List Char × List Char)
  | _, [] => none
  | depth, c :: cs =>
      if c = ')' && depth ≤ 1 then some ([], cs)
      else
        let depth := if c = ')' then depth - 1 else if c = '(' then depth + 1 else depth
        (closing depth cs).map fun (name, rest) ↦ (c :: name, rest)

/-- `fieldName cs` reads the name in parentheses that `cs` may start with. -/
def fieldName : List Char → FieldName × List Char
  | '(' :: cs =>
      match closing 1 cs with
      | some (name, rest) => (.named name, rest)
      | none => (.unclosed, [])
  | cs => (.next, cs)

/-- `isFlag c` holds for the characters that are flags. -/
def isFlag (c : Char) : Bool :=
  c == '-' || c == '+' || c == ' ' || c == '#' || c == '0'

/-- `precision? cs` reads the point and the digits of a precision that `cs` may start with. -/
def precision? : List Char → Option Nat × List Char
  | '.' :: cs =>
      let digits := cs.takeWhile isAsciiDigit
      (some ((asciiNumber? digits).getD 0), cs.drop digits.length)
  | cs => (none, cs)

/-- `withoutLengthMark cs` drops one of the letters `h`, `l` and `L`, which mean nothing. -/
def withoutLengthMark : List Char → List Char
  | c :: cs => if c = 'h' || c = 'l' || c = 'L' then cs else c :: cs
  | [] => []

/-- `conversion length cs` reads what follows a percent sign, in a template of so many characters,
and gives what is behind it. -/
def conversion (length : Nat) (cs : List Char) : Conversion × List Char :=
  let (field, rest) := fieldName cs
  let flags := rest.takeWhile isFlag
  let rest := rest.drop flags.length
  let digits := rest.takeWhile isAsciiDigit
  let (precision, rest) := precision? (rest.drop digits.length)
  let rest := withoutLengthMark rest
  let width := (asciiNumber? digits).getD 0
  (⟨field, flags, width, precision, rest.head?, length - rest.length⟩, rest.tail)

/-- `piecesFrom fuel length cs` reads the pieces of the end `cs` of a template of `length`
characters, of which there are at most `fuel`. -/
def piecesFrom : Nat → Nat → List Char → List Piece
  | 0, _, _ => []
  | _, _, [] => []
  | fuel + 1, length, '%' :: '%' :: cs => .literal '%' :: piecesFrom fuel length cs
  | fuel + 1, length, '%' :: cs =>
      let (found, rest) := conversion length cs
      .conversion found :: piecesFrom fuel length rest
  | fuel + 1, length, c :: cs => .literal c :: piecesFrom fuel length cs

/-- `piecesOf cs` is the pieces of the template `cs`. -/
def piecesOf (cs : List Char) : List Piece :=
  piecesFrom cs.length cs.length cs

/-- Why a template cannot be filled in. -/
inductive FormatError where
  | notEnoughArguments
  | unusedArguments
  | notANumber (letter : Char) (kind : String)
  | infiniteNumber (description : String)
  | undefinedNumber (description : String)
  | tooManyDigits
  | incomplete
  | unclosedName
  | noFields
  | unknownField (name : String)
  | fieldOfList
  | unknownLetter (letter : Char) (index : Nat)
  deriving DecidableEq, Repr, Inhabited

namespace FormatError

/-- `shownLetter c` is a letter within an error message, or a question mark when it is not ASCII. -/
def shownLetter (c : Char) : Char :=
  if 31 ≤ c.toNat && c.toNat ≤ 126 then c else '?'

/-- `error.message` says what is wrong. -/
def message : FormatError → String
  | notEnoughArguments => "not enough arguments for format string"
  | unusedArguments => "not all arguments converted during string formatting"
  | notANumber letter kind =>
      "%" ++ String.ofList [letter] ++ " format: a real number is required, not " ++ kind
  | infiniteNumber description => "cannot convert " ++ description ++ " to integer"
  | undefinedNumber description => "cannot convert " ++ description ++ " to integer"
  | tooManyDigits => DigitLimit.unwritableText
  | incomplete => "incomplete format"
  | unclosedName => "incomplete format key"
  | noFields => "format requires a mapping"
  | unknownField name => quoted name
  | fieldOfList => "list indices must be integers or slices, not str"
  | unknownLetter letter index =>
      "unsupported format character '" ++ String.ofList [shownLetter letter] ++ "' (0x" ++
        String.ofList (Nat.toDigits 16 letter.toNat) ++ ") at index " ++ toString index

end FormatError

/-- `integerPart letter value` is the integer that `value` is written as by the conversion `letter`.
That of a decimal number is not computed if it has too many digits. -/
def integerPart (letter : Char) : Value → Except FormatError Int
  | .int n => .ok n
  | .bool b => .ok (if b then 1 else 0)
  | .float x =>
      match x, x.truncate? with
      | _, some n => .ok n
      | .infinite _, none => .error (.infiniteNumber "float infinity")
      | _, none => .error (.undefinedNumber "float NaN")
  | .decimal d =>
      if DigitLimit.maxDigits < d.integerLength then .error .tooManyDigits
      else match d, d.truncate? with
        | _, some n => .ok n
        | .infinite _, none => .error (.infiniteNumber "Infinity")
        | _, none => .error (.undefinedNumber "NaN")
  | value => .error (.notANumber letter value.kind)

namespace Conversion

/-- `pad spec width cs` pads a text to the width with spaces, on the left unless the flag `-` asks
for the right. -/
def pad (spec : Conversion) (cs : List Char) : List Char :=
  let fill := List.replicate (spec.width - cs.length) ' '
  if spec.flags.contains '-' then cs ++ fill else fill ++ cs

/-- `spec.formatText s` is a text cut to the precision and padded to the width. -/
def formatText (spec : Conversion) (s : String) : List Char :=
  spec.pad (match spec.precision with
    | some most => s.toList.take most
    | none => s.toList)

/-- `spec.sign n` is what stands before the digits of `n`. -/
def sign (spec : Conversion) (n : Int) : List Char :=
  if n < 0 then ['-']
  else if spec.flags.contains '+' then ['+']
  else if spec.flags.contains ' ' then [' ']
  else []

/-- `spec.formatInt n` is an integer with its sign and at least as many digits as the precision,
padded to the width with zeros if the flag `0` asks for them. -/
def formatInt (spec : Conversion) (n : Int) : List Char :=
  let sign := spec.sign n
  let digits := Nat.toDigits 10 n.natAbs
  let digits := List.replicate (spec.precision.getD 0 - digits.length) '0' ++ digits
  if spec.flags.contains '0' && !spec.flags.contains '-' then
    sign ++ List.replicate (spec.width - sign.length - digits.length) '0' ++ digits
  else spec.pad (sign ++ digits)

/-- `spec.formatValue letter value` is `value` as the conversion `letter` writes it. -/
def formatValue (spec : Conversion) (letter : Char) (value : Value) :
    Except FormatError (List Char) :=
  match letter with
  | 's' => .ok (spec.formatText value.display)
  | 'r' => .ok (spec.formatText value.literal)
  | 'd' | 'i' =>
      match integerPart letter value with
      | .ok n => if DigitLimit.isWritable n then .ok (spec.formatInt n) else .error .tooManyDigits
      | .error error => .error error
  | _ => .error (.unknownLetter letter spec.index)

end Conversion

/-- The arguments of a message: none, several, or one value whose fields can be named. -/
inductive Arguments where
  | absent
  | several (values : List Value)
  | single (value : Value)
  deriving Repr, Inhabited

namespace Arguments

/-- `ofList values` is the arguments of a logging call. A lone object with fields is a single value.
-/
def ofList : List Value → Arguments
  | [] => absent
  | [.object (field :: fields)] => single (.object (field :: fields))
  | values => several values

/-- `ofValue value` is one value as the arguments; an empty value is none. -/
def ofValue (value : Value) : Arguments :=
  if value.isEmpty then absent else single value

/-- `hasFields value` holds for the values whose items can be named. -/
def hasFields : Value → Bool
  | .object _ | .list _ => true
  | _ => false

/-- `valueOf source name` is the value of a named field. -/
def valueOf (source : Option Value) (name : String) : Except FormatError Value :=
  match source with
  | some (.object fields) =>
      match fields.lookup name with
      | some value => .ok value
      | none => .error (.unknownField name)
  | some _ => .error .fieldOfList
  | none => .error .noFields

/-- `waitingFor spec source waiting` is the arguments that are left to use, after a name in the
conversion has put its field in their place. -/
def waitingFor (spec : Conversion) (source : Option Value) (waiting : List Value) :
    Except FormatError (List Value) :=
  match spec.field with
  | .next => .ok waiting
  | .named name => (valueOf source (String.ofList name)).map fun value ↦ [value]
  | .unclosed => if source.isSome then .error .unclosedName else .error .noFields

/-- `formatPieces source pieces waiting` fills the pieces in. `source` is the value whose fields can
be named, and `waiting` is the arguments that are left to use. -/
def formatPieces (source : Option Value) :
    List Piece → List Value → Except FormatError (List Char)
  | [], waiting =>
      if waiting.isEmpty || source.isSome then .ok [] else .error .unusedArguments
  | .literal c :: pieces, waiting => (formatPieces source pieces waiting).map (c :: ·)
  | .conversion spec :: pieces, waiting => do
      let waiting ← waitingFor spec source waiting
      match spec.letter, waiting with
      | none, _ => .error .incomplete
      | some _, [] => .error .notEnoughArguments
      | some letter, value :: waiting =>
          let written ← spec.formatValue letter value
          let rest ← formatPieces source pieces waiting
          return written ++ rest

/-- `arguments.formatChars template` is the template with the arguments filled in. Without arguments
it is left as it is. -/
def formatChars (arguments : Arguments) (template : List Char) : Except FormatError (List Char) :=
  match arguments with
  | absent => .ok template
  | several values => formatPieces none (piecesOf template) values
  | single value =>
      formatPieces (if hasFields value then some value else none) (piecesOf template) [value]

/-- `arguments.format template` is the template with the arguments filled in. -/
def format (arguments : Arguments) (template : String) : Except FormatError String :=
  (arguments.formatChars template.toList).map String.ofList

end Arguments

end AssistedDialing.Log
