import AssistedDialing.NumberingPlan.Pattern

/-!
# Numbering plans

A numbering plan lists the regions of each calling code with the numbers that are assigned there,
all calling codes in use, and the emergency numbers of some regions. `Region.isAssigned` decides
whether national digits are a number of a region, and `NumberingPlan.regionOf?` finds the region of
a number.
-/

namespace AssistedDialing

/-- A set of numbers: their pattern, their lengths, and the lengths of those that can only be
dialled within their area. -/
structure NumberRange where
  pattern : Pattern
  lengths : List Nat := []
  localLengths : List Nat := []
  deriving Repr, DecidableEq, Inhabited

namespace NumberRange

/-- `range.contains digits` holds when `digits` has one of the lengths and matches the pattern. -/
def contains (range : NumberRange) (digits : List Char) : Bool :=
  (range.lengths.isEmpty || range.lengths.contains digits.length) && range.pattern.matchesAll digits

end NumberRange

/-- The services to which ranges of numbers are assigned. -/
inductive Service where
  | premiumRate
  | tollFree
  | sharedCost
  | voip
  | personal
  | pager
  | universalAccess
  | voicemail
  | fixedLine
  | mobile
  deriving DecidableEq, Repr, Inhabited

/-- How a national prefix is replaced: by these digits and a named part of the prefix. -/
structure PrefixRule where
  digits : String
  group : Nat
  deriving DecidableEq, Repr, Inhabited

/-- A region: its code, its calling code, the prefixes that are dialled there, the digits by which
its numbers are told from those of other regions with the same calling code, and its numbers. -/
structure Region where
  id : String
  callingCode : Nat
  internationalPrefix : Option Pattern := none
  nationalPrefix : Option Pattern := none
  prefixRule : Option PrefixRule := none
  leadingDigits : Option Pattern := none
  general : NumberRange
  services : List (Service × NumberRange)
  deriving Repr, DecidableEq, Inhabited

namespace Region

/-- `region.isAssigned digits` holds when `digits` is a national number of the region that is
assigned to some service. -/
def isAssigned (region : Region) (digits : List Char) : Bool :=
  region.general.contains digits &&
    region.services.any fun (_, range) ↦ range.contains digits

/-- `region.owns digits` holds when `digits` begins with the leading digits of the region or, in a
region without those, is assigned there. -/
def owns (region : Region) (digits : List Char) : Bool :=
  match region.leadingDigits with
  | some pattern => pattern.matchesStart digits
  | none => region.isAssigned digits

end Region

/-- A numbering plan. The regions that share a calling code stand in the order in which they are
searched, and the first of them is the main region. -/
structure NumberingPlan where
  regions : List Region
  callingCodes : List Nat
  emergencyNumbers : List (String × Pattern)
  deriving Repr, DecidableEq, Inhabited

namespace NumberingPlan

/-- `plan.region? id` is the region with the code `id`. -/
def region? (plan : NumberingPlan) (id : String) : Option Region :=
  plan.regions.find? fun region ↦ region.id = id

/-- `plan.regionsOf code` is the regions of a calling code, in order. -/
def regionsOf (plan : NumberingPlan) (code : Int) : List Region :=
  plan.regions.filter fun region ↦ (region.callingCode : Int) = code

/-- `plan.regionOf? code digits` is the region of the national number `digits` of a calling code.
The only region of a calling code has all its numbers. -/
def regionOf? (plan : NumberingPlan) (code : Int) (digits : List Char) : Option Region :=
  match plan.regionsOf code with
  | [region] => some region
  | regions => regions.find? fun region ↦ region.owns digits

/-- `plan.isCallingCode n` holds when `n` is a calling code in use. -/
def isCallingCode (plan : NumberingPlan) (n : Nat) : Bool :=
  plan.callingCodes.contains n

/-- `plan.isEmergency region digits` holds when `digits` is an emergency number of `region`. -/
def isEmergency (plan : NumberingPlan) (region : String) (digits : List Char) : Bool :=
  match plan.emergencyNumbers.lookup region with
  | some pattern => pattern.matchesAll digits
  | none => false

end NumberingPlan

end AssistedDialing
