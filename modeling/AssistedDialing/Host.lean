/-!
# The host

What a program sees of the machine it runs on: the files by their paths and the environment
variables.
-/

namespace AssistedDialing

/-- What a path leads to. A path with the null character leads to nothing; one with a name that is
longer than names can be is refused. -/
inductive FileEntry where
  | missing
  | nameTooLong
  | directory
  | file (bytes : List UInt8)
  deriving DecidableEq, Repr, Inhabited

/-- The files and the environment variables. -/
structure Host where
  files : String → FileEntry
  environment : String → Option String

end AssistedDialing
