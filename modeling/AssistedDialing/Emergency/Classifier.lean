import AssistedDialing.Dialled.Validity
import AssistedDialing.Emergency.Separators
import AssistedDialing.Text.Upper

/-!
# Emergency numbers

A `Classifier` tells emergency numbers by the region of the SIM, the region of the serving network
and a list of further numbers. `isEmergency` is the general answer and `isLocalEmergency` the answer
for the serving network. Only complete numbers match: one that begins with an emergency number is
none.
-/

namespace AssistedDialing.Emergency

/-- The numbers that are emergency numbers in every region. -/
def globalNumbers : List String :=
  ["112", "911"]

/-- What is known about the device: the region of its SIM, the region of the serving network, and
the numbers that are emergency numbers in every region. -/
structure Classifier where
  simRegion : Option String
  networkRegion : Option String
  numbers : List String
  deriving DecidableEq, Repr, Inhabited

/-- `knownRegion region` is the region in upper case, unless it is empty. -/
def knownRegion (region : Option String) : Option String :=
  match region with
  | none | some "" => none
  | some region => some (Text.upper region)

/-- `operatorNumbers extra` is the further numbers without separators, blank ones left out. -/
def operatorNumbers (extra : List String) : List String :=
  (extra.map stripSeparators).filter fun number ↦ number ≠ ""

namespace Classifier

/-- `ofRegions sim network extra` knows the two regions and, besides the global numbers, those of
the list `extra`. -/
def ofRegions (sim network : Option String) (extra : List String) : Classifier where
  simRegion := knownRegion sim
  networkRegion := knownRegion network
  numbers := globalNumbers ++ operatorNumbers extra

/-- `inRegion plan raw region` holds when `raw` is an emergency number of a known region. -/
def inRegion (plan : NumberingPlan) (raw : String) : Option String → Bool
  | none => false
  | some region => plan.isEmergencyText raw region

/-- `classifier.isEmergency plan raw` holds when `raw`, without separators, is one of the numbers,
or when it is an emergency number of the region of the SIM. -/
def isEmergency (plan : NumberingPlan) (classifier : Classifier) (raw : String) : Bool :=
  classifier.numbers.contains (stripSeparators raw) || inRegion plan raw classifier.simRegion

/-- `classifier.isLocalEmergency plan raw` holds when `raw` is an emergency number of the region of
the serving network. -/
def isLocalEmergency (plan : NumberingPlan) (classifier : Classifier) (raw : String) : Bool :=
  inRegion plan raw classifier.networkRegion

/-- `classifier.isAnyEmergency plan raw` holds when `raw` is an emergency number in general or for
the serving network. -/
def isAnyEmergency (plan : NumberingPlan) (classifier : Classifier) (raw : String) : Bool :=
  classifier.isEmergency plan raw || classifier.isLocalEmergency plan raw

end Classifier

end AssistedDialing.Emergency
