import AssistedDialing.Text.Digit

/-!
# Styles of a terminal

An escape character, an opening bracket, parameters and a letter set the style of what a terminal
shows next. `withoutStyles` drops such sequences from a text that is not shown on a terminal.
-/

namespace AssistedDialing.Text

/-- `isStyleParameter c` holds for the characters between the bracket and the letter. -/
def isStyleParameter (c : Char) : Bool :=
  isAsciiDigit c || c == ';' || c == '?'

/-- `styleLength? cs` is the number of characters behind an escape character that are a part of a
sequence. -/
def styleLength? : List Char → Option Nat
  | '[' :: cs =>
      let parameters := cs.takeWhile isStyleParameter
      if (cs.drop parameters.length).head?.any isAsciiLetter then some (parameters.length + 2)
      else none
  | _ => none

/-- `withoutStylesFrom skipped cs` is `cs` without sequences and without its first `skipped`
characters, which are the rest of one. -/
def withoutStylesFrom : Nat → List Char → List Char
  | _, [] => []
  | skipped + 1, _ :: cs => withoutStylesFrom skipped cs
  | 0, c :: cs =>
      match if c == '\x1b' then styleLength? cs else none with
      | some length => withoutStylesFrom length cs
      | none => c :: withoutStylesFrom 0 cs

/-- `withoutStyles s` is the text `s` without the sequences that set a style. -/
def withoutStyles (s : String) : String :=
  String.ofList (withoutStylesFrom 0 s.toList)

end AssistedDialing.Text
