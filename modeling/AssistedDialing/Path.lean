/-!
# Paths

A `Path` is the name of a file as a list of components. Empty components and the component `.` are
dropped when it is read, so that different spellings of one path are equal.
-/

namespace AssistedDialing

/-- A path: the slashes it starts with and its components. -/
structure Path where
  root : String
  components : List String
  deriving DecidableEq, Repr, Inhabited

namespace Path

/-- `rootOf cs` is the root that a path starting like `cs` has: two slashes are kept as they are,
and any other number of slashes is one. -/
def rootOf (cs : List Char) : String :=
  match (cs.takeWhile (· == '/')).length with
  | 0 => ""
  | 2 => "//"
  | _ => "/"

/-- `ofText s` reads a path. -/
def ofText (s : String) : Path where
  root := rootOf s.toList
  components :=
    ((s.toList.splitOn '/').filter fun part ↦ part ≠ [] && part ≠ ['.']).map String.ofList

/-- `text p` is the path with single slashes between its components; the empty path is `.`. -/
def text (p : Path) : String :=
  let joined := p.root ++ "/".intercalate p.components
  if joined = "" then "." else joined

end Path

end AssistedDialing
