import AssistedDialing.Country.Code

/-!
# Where a device is

A device knows the country of its SIM and the country of the network that serves it; either may be
unknown. It is roaming when both are known and different.
-/

namespace AssistedDialing.Country

/-- `isRoaming home roaming` holds when the two codes differ as they stand. -/
def isRoaming (home roaming : Option String) : Bool :=
  home ≠ roaming

/-- The countries that the SIM and the network of a device report. -/
structure Location where
  sim : Option String
  network : Option String
  deriving DecidableEq, Repr, Inhabited

namespace Location

/-- `known code` is the normalised code, unless that is empty. -/
def known (code : Option String) : Option String :=
  if normalize code = "" then none else some (normalize code)

/-- `location.home` is the code of the home country. -/
def home (location : Location) : Option String :=
  known location.sim

/-- `location.roaming` is the code of the serving country. -/
def roaming (location : Location) : Option String :=
  known location.network

/-- `location.isRoaming` holds when the home country and the serving country are known and differ.
-/
def isRoaming (location : Location) : Bool :=
  match location.home, location.roaming with
  | some home, some roaming => home ≠ roaming
  | _, _ => false

end Location

end AssistedDialing.Country
