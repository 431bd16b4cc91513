/-!
# Runs of case mappings

A `CaseRun` maps characters at a common distance from each other to characters of the other case,
all by the same shift. `mapSingle` maps one code point by a list of runs.
-/

namespace AssistedDialing.Text

/-- The code points `first`, `first + step`, …, `last`, which are mapped to those that lie `up`
above them and `down` below them: one of the two is zero. -/
structure CaseRun where
  first : Nat
  last : Nat
  step : Nat
  up : Nat
  down : Nat
  deriving DecidableEq, Repr

namespace CaseRun

/-- `run.contains code` holds when `code` is one of the code points of the run. -/
def contains (run : CaseRun) (code : Nat) : Bool :=
  run.first ≤ code && code ≤ run.last && (code - run.first) % run.step == 0

/-- `run.apply code` is what a code point of the run is mapped to. -/
def apply (run : CaseRun) (code : Nat) : Nat :=
  code + run.up - run.down

end CaseRun

/-- `mapSingle runs code` maps `code` by the ascending run that contains it, and leaves it as it is
when none does. -/
def mapSingle : List CaseRun → Nat → Nat
  | [], code => code
  | run :: runs, code =>
      if code < run.first then code
      else if run.contains code then run.apply code
      else mapSingle runs code

end AssistedDialing.Text
