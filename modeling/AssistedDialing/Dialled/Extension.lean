import AssistedDialing.Dialled.Character

/-!
# Extensions

An extension is written behind a number: a label, digits and possibly a number sign. `labels` lists
the forms that a label can take, each with the greatest number of digits and the use of the number
sign. `isExtension` decides whether a text is an extension, and `splitExtension?` finds the longest
end of a text that is one.
-/

namespace AssistedDialing.Dialled

open Text

/-- `isGap c` holds for blanks and commas before a label. -/
def isGap (c : Char) : Bool :=
  c == ' ' || c == '\t' || c == ',' || c.toNat == 0xA0

/-- `isGapOrDash c` holds for what may stand between a label and the digits. -/
def isGapOrDash (c : Char) : Bool :=
  isGap c || c == '-'

/-- `isSpace c` holds for the blanks before punctuation that is a label by itself. -/
def isSpace (c : Char) : Bool :=
  c == ' ' || c == '\t' || c.toNat == 0xA0

/-- `isLabelMark c` holds for the characters that may end a label. -/
def isLabelMark (c : Char) : Bool :=
  c == ':' || c == '.' || c.toNat == 0xFF0E

/-- `dropMark cs` drops one character that may end a label. -/
def dropMark : List Char → List Char
  | c :: cs => if isLabelMark c then cs else c :: cs
  | [] => []

/-- `endsLabel cs` holds when `cs` is an optional mark and then only blanks, commas and dashes. -/
def endsLabel (cs : List Char) : Bool :=
  (dropMark cs).all isGapOrDash

/-- The words that introduce an extension of up to twenty digits, in lower case. -/
def longWords : List (List Char) :=
  (["ext", "xt", "extn", "xtn", "extensio", "xtensio", "extension", "xtension",
    "extensi\u00f3", "xtensi\u00f3", "extensi\u00f3n", "xtensi\u00f3n",
    "extensio\u0301", "xtensio\u0301", "extensio\u0301n", "xtensio\u0301n",
    "\uff45\uff58\uff54", "\uff58\uff54", "\uff45\uff58\uff54\uff4e", "\uff58\uff54\uff4e",
    "\u0434\u043e\u0431", "anexo"] : List String).map String.toList

/-- The words and signs that introduce an extension of up to nine digits, in lower case. -/
def shortWords : List (List Char) :=
  (["x", "\uff58", "#", "\uff03", "~", "\uff5e", "int", "\uff49\uff4e\uff54"] : List String).map
    String.toList

/-- `isWordLabel words cs` holds when `cs` is one of the words, in any case, with gaps around it. -/
def isWordLabel (words : List (List Char)) (cs : List Char) : Bool :=
  let body := (cs.dropWhile isGap).map fold
  words.any fun word ↦ word.isPrefixOf body && endsLabel (body.drop word.length)

/-- `isAttributeLabel cs` holds when `cs` is the attribute `;ext=`, in any case. -/
def isAttributeLabel (cs : List Char) : Bool :=
  cs.map fold == ";ext=".toList

/-- `isDashLabel cs` holds when `cs` is one or more dashes and spaces. -/
def isDashLabel (cs : List Char) : Bool :=
  !cs.isEmpty && cs.all fun c ↦ c == '-' || c == ' '

/-- `isPauseLabel cs` holds when `cs` begins with a semicolon or two commas. -/
def isPauseLabel (cs : List Char) : Bool :=
  match cs.dropWhile isSpace with
  | ';' :: rest => endsLabel rest
  | ',' :: ',' :: rest => endsLabel rest
  | _ => false

/-- `isCommaLabel cs` holds when `cs` begins with one or more commas. -/
def isCommaLabel (cs : List Char) : Bool :=
  match cs.dropWhile isSpace with
  | ',' :: rest => endsLabel (rest.dropWhile (· == ','))
  | _ => false

/-- A form of extension: its labels, its greatest number of digits, and whether a number sign may or
must end it. -/
structure ExtensionForm where
  isLabel : List Char → Bool
  mostDigits : Nat
  mayEndInSign : Bool
  mustEndInSign : Bool

/-- The forms of extension. -/
def extensionForms : List ExtensionForm :=
  [⟨isAttributeLabel, 20, false, false⟩, ⟨isWordLabel longWords, 20, true, false⟩,
   ⟨isWordLabel shortWords, 9, true, false⟩, ⟨isDashLabel, 6, true, true⟩,
   ⟨isPauseLabel, 15, true, false⟩, ⟨isCommaLabel, 9, true, false⟩]

/-- The parts of a text that may be an extension: a label, the digits behind it and whether a number
sign ends the text. -/
structure ExtensionParts where
  label : List Char
  digits : List Char
  endsInSign : Bool
  deriving DecidableEq, Repr

/-- `extensionParts cs` separates the digits at the end of `cs`. -/
def extensionParts (cs : List Char) : ExtensionParts :=
  let reversed := cs.reverse
  let body := match reversed with
    | '#' :: rest => rest
    | rest => rest
  { label := (body.dropWhile isDecimal).reverse
    digits := (body.takeWhile isDecimal).reverse
    endsInSign := reversed.head? == some '#' }

namespace ExtensionForm

/-- `form.accepts parts` holds when `parts` is an extension of this form. -/
def accepts (form : ExtensionForm) (parts : ExtensionParts) : Bool :=
  form.isLabel parts.label && !parts.digits.isEmpty && parts.digits.length ≤ form.mostDigits &&
    (if parts.endsInSign then form.mayEndInSign else !form.mustEndInSign)

end ExtensionForm

/-- `isExtension cs` holds when the whole of `cs` is an extension with its label. -/
def isExtension (cs : List Char) : Bool :=
  extensionForms.any fun form ↦ form.accepts (extensionParts cs)

/-- `splitExtension? cs` splits `cs` before the longest end of it that is an extension, and gives
what stands before and the digits of the extension. -/
def splitExtension? : List Char → Option (List Char × List Char)
  | [] => none
  | c :: cs =>
      if isExtension (c :: cs) then some ([], (extensionParts (c :: cs)).digits)
      else (splitExtension? cs).map fun (before, digits) ↦ (c :: before, digits)

end AssistedDialing.Dialled
