/-!
# Spans of code points

A `Span` is an inclusive interval of code points. Character classes outside ASCII are lists of spans
in ascending order, and `inSpans` decides membership by one pass that stops at the first span beyond
the code point.
-/

namespace AssistedDialing.Text

/-- The code points from `first` to `last`, both included. -/
structure Span where
  first : Nat
  last : Nat
  deriving DecidableEq, Repr

/-- `inSpans spans code` holds when one of the ascending `spans` contains `code`. -/
def inSpans : List Span → Nat → Bool
  | [], _ => false
  | span :: spans, code =>
      if code < span.first then false else code ≤ span.last || inSpans spans code

end AssistedDialing.Text
