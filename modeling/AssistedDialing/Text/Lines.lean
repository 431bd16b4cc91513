/-!
# Line ends

Text files may end their lines by a line feed, a carriage return or both. `unifyLineEnds` writes
every line end as a line feed.
-/

namespace AssistedDialing.Text

/-- `unifyLineEndChars cs` replaces `\r\n` and `\r` in `cs` by `\n`. -/
def unifyLineEndChars : List Char → List Char
  | [] => []
  | '\r' :: '\n' :: cs => '\n' :: unifyLineEndChars cs
  | c :: cs => (if c = '\r' then '\n' else c) :: unifyLineEndChars cs

/-- `unifyLineEnds s` is `s` with each line end written as a line feed. -/
def unifyLineEnds (s : String) : String :=
  String.ofList (unifyLineEndChars s.toList)

end AssistedDialing.Text
