import AssistedDialing.Eligibility.Reason
import AssistedDialing.Value.Display

/-!
# Verdicts

The answer whether a number may be offered assisted dialing: it may, or there is a reason against
it.
-/

namespace AssistedDialing

/-- Whether a number may be offered assisted dialing, and if not, why. -/
inductive Verdict where
  | eligible
  | ineligible (reason : Reason)
  deriving DecidableEq, Repr, Inhabited

namespace Verdict

/-- `verdict.reason?` is the reason against assisted dialing, if there is one. -/
def reason? : Verdict → Option Reason
  | eligible => none
  | ineligible reason => some reason

/-- `verdict.isEligible` holds when there is no reason against assisted dialing. -/
def isEligible : Verdict → Bool
  | eligible => true
  | ineligible _ => false

@[simp] theorem isEligible_iff (verdict : Verdict) :
    verdict.isEligible = true ↔ verdict = eligible := by
  cases verdict <;> simp [isEligible]

theorem reason?_eq_none_iff (verdict : Verdict) :
    verdict.reason? = none ↔ verdict.isEligible = true := by
  cases verdict <;> simp [isEligible, reason?]

/-- `verdict.display` shows both parts of the answer. -/
def display (verdict : Verdict) : String :=
  let reason := (verdict.reason?.map Reason.quoted).getD "None"
  "EligibilityResult(eligible=" ++ Value.boolText verdict.isEligible ++ ", reason=" ++ reason ++ ")"

end Verdict

end AssistedDialing
