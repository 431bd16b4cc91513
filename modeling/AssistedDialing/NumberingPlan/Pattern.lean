/-!
# Digit patterns

A numbering plan describes numbers by patterns over digits. `Pattern.run` gives the ways in which a
pattern matches the beginning of a number, in order of preference: of two alternatives the first,
and of optional repetitions as many as possible. `Pattern.matchesAll` asks for a match of the whole
number, `Pattern.first?` for the preferred match of its beginning.
-/

namespace AssistedDialing

/-- A pattern over the digits of a number. `group` names a part of the match. -/
inductive Pattern where
  | empty
  | oneOf (digits : List Char)
  | seq (first second : Pattern)
  | alt (first second : Pattern)
  | upTo (count : Nat) (body : Pattern)
  | group (index : Nat) (body : Pattern)
  | atEnd
  deriving Repr, DecidableEq, Inhabited

namespace Pattern

instance : Append Pattern := ⟨seq⟩

instance : OrOp Pattern := ⟨alt⟩

/-- `lit text` matches the digits of `text`. -/
def lit (text : String) : Pattern :=
  text.toList.foldr (fun c rest ↦ match rest with
    | empty => oneOf [c]
    | rest => seq (oneOf [c]) rest) empty

/-- `among text` matches one of the digits of `text`. -/
def among (text : String) : Pattern :=
  oneOf text.toList

/-- `times count body` matches `body` so many times. -/
def times : Nat → Pattern → Pattern
  | 0, _ => empty
  | 1, body => body
  | count + 1, body => seq body (times count body)

/-- `between least most body` matches `body` at least and at most so many times. -/
def between (least most : Nat) (body : Pattern) : Pattern :=
  seq (times least body) (upTo (most - least) body)

/-- `optional body` matches `body` or nothing. -/
def optional (body : Pattern) : Pattern :=
  upTo 1 body

/-- One digit. -/
def digit : Pattern :=
  among "0123456789"

/-- `digits count` matches so many digits. -/
def digits (count : Nat) : Pattern :=
  times count digit

/-- A match of the beginning of a number: the digits behind it and the named parts within it. -/
structure Match where
  rest : List Char
  groups : List (Nat × List Char)
  deriving DecidableEq, Repr, Inhabited

/-- `repeatUpTo count step cs` applies `step` as often as possible, at most `count` times. -/
def repeatUpTo (step : List Char → List Match) : Nat → List Char → List Match
  | 0, cs => [⟨cs, []⟩]
  | count + 1, cs =>
      ((step cs).flatMap fun first ↦ (repeatUpTo step count first.rest).map fun second ↦
        ⟨second.rest, first.groups ++ second.groups⟩) ++ [⟨cs, []⟩]

/-- `pattern.run cs` is the matches of the beginning of `cs`, the preferred one first. -/
def run : Pattern → List Char → List Match
  | empty, cs => [⟨cs, []⟩]
  | oneOf _, [] => []
  | oneOf choices, c :: cs => if choices.contains c then [⟨cs, []⟩] else []
  | seq first second, cs =>
      (first.run cs).flatMap fun left ↦ (second.run left.rest).map fun right ↦
        ⟨right.rest, left.groups ++ right.groups⟩
  | alt first second, cs => first.run cs ++ second.run cs
  | upTo count body, cs => repeatUpTo body.run count cs
  | group index body, cs =>
      (body.run cs).map fun inner ↦
        ⟨inner.rest, inner.groups ++ [(index, cs.take (cs.length - inner.rest.length))]⟩
  | atEnd, cs => if cs.isEmpty then [⟨cs, []⟩] else []

/-- `pattern.matchesAll cs` holds when the pattern matches the whole of `cs`. -/
def matchesAll (pattern : Pattern) (cs : List Char) : Bool :=
  (pattern.run cs).any fun found ↦ found.rest.isEmpty

/-- `pattern.first? cs` is the preferred match of the beginning of `cs`. -/
def first? (pattern : Pattern) (cs : List Char) : Option Match :=
  (pattern.run cs).head?

/-- `pattern.matchesStart cs` holds when the pattern matches some beginning of `cs`. -/
def matchesStart (pattern : Pattern) (cs : List Char) : Bool :=
  (pattern.first? cs).isSome

namespace Match

/-- `found.group? index` is the part of the match that has the name `index`. -/
def group? (found : Match) (index : Nat) : Option (List Char) :=
  found.groups.lookup index

end Match

end Pattern

end AssistedDialing
