/-!
# Similarity of words

Two words are compared by the blocks that they share: their longest common block, the longest
common blocks on its left and on its right, and so on. `closest word candidates` computes the
candidates that share at least three fifths of their characters with a word in this way.
-/

namespace AssistedDialing.Text

/-- A block that two lists have in common: where it starts in each of them, and its length. -/
structure CommonBlock where
  left : Nat := 0
  right : Nat := 0
  length : Nat := 0
  deriving DecidableEq, Repr, Inhabited

/-- `commonStart a b` is the length of the longest list that both `a` and `b` start with. -/
def commonStart : List Char → List Char → Nat
  | x :: a, y :: b => if x = y then commonStart a b + 1 else 0
  | _, _ => 0

/-- `CommonBlock.longer first second` is the longer one of two blocks; of blocks of one length it is
the first. -/
def CommonBlock.longer (first second : CommonBlock) : CommonBlock :=
  if first.length < second.length then second else first

/-- `longestFrom a b left right` is the longest block that starts at the start of `a`. The lists are
parts of others, from the positions `left` and `right` on. -/
def longestFrom (a : List Char) (left : Nat) : List Char → Nat → CommonBlock
  | [], _ => {}
  | y :: b, right =>
      CommonBlock.longer ⟨left, right, commonStart a (y :: b)⟩ (longestFrom a left b (right + 1))

/-- `longestBlock a left b` is the longest block of `a` and `b`, the leftmost in `a` if several are
longest, and then the leftmost in `b`. The list `a` is a part of another, from `left` on. -/
def longestBlock : List Char → Nat → List Char → CommonBlock
  | [], _, _ => {}
  | x :: a, left, b =>
      CommonBlock.longer (longestFrom (x :: a) left b 0) (longestBlock a (left + 1) b)

/-- `sharedWithin depth a b` is the number of characters in the shared blocks of `a` and `b`, where
the longest block divides both lists at most `depth` times. -/
def sharedWithin : Nat → List Char → List Char → Nat
  | 0, _, _ => 0
  | depth + 1, a, b =>
      let block := longestBlock a 0 b
      if block.length = 0 then 0
      else
        sharedWithin depth (a.take block.left) (b.take block.right) + block.length +
          sharedWithin depth (a.drop (block.left + block.length))
            (b.drop (block.right + block.length))

/-- `shared a b` is the number of characters in the shared blocks of `a` and `b`. Every division
shortens `a`, so its length bounds their number. -/
def shared (a b : List Char) : Nat :=
  sharedWithin a.length a b

/-- A candidate for a word: how many characters the two share, and how many they have together. -/
structure Candidate where
  text : String
  shared : Nat
  total : Nat
  deriving DecidableEq, Repr, Inhabited

namespace Candidate

/-- `ofWord word text` compares a text with a word. -/
def ofWord (word text : String) : Candidate where
  text := text
  shared := Text.shared text.toList word.toList
  total := text.length + word.length

/-- `candidate.isClose` holds when at least three fifths of the characters are shared. -/
def isClose (candidate : Candidate) : Bool :=
  decide (3 * candidate.total ≤ 10 * candidate.shared)

/-- `candidate.precedes other` holds when a candidate shares a larger part of its characters than
another, or the same part and comes behind it in the order of texts. -/
def precedes (candidate other : Candidate) : Bool :=
  let part := candidate.shared * other.total
  let otherPart := other.shared * candidate.total
  decide (otherPart < part) || (decide (part = otherPart) && decide (other.text < candidate.text))

end Candidate

/-- `insertBy precedes x xs` puts `x` in front of the first element that it precedes. -/
def insertBy {α : Type} (precedes : α → α → Bool) (x : α) : List α → List α
  | [] => [x]
  | y :: ys => if precedes x y then x :: y :: ys else y :: insertBy precedes x ys

/-- `sortBy precedes xs` is the list `xs` in order. -/
def sortBy {α : Type} (precedes : α → α → Bool) (xs : List α) : List α :=
  xs.foldr (insertBy precedes) []

/-- `closest word candidates` is the three candidates that are most similar to a word, or fewer if
fewer are close to it, in the order of texts. -/
def closest (word : String) (candidates : List String) : List String :=
  let close := (candidates.map (Candidate.ofWord word)).filter Candidate.isClose
  sortBy (fun first second ↦ decide (first < second))
    (((sortBy Candidate.precedes close).take 3).map Candidate.text)

end AssistedDialing.Text
