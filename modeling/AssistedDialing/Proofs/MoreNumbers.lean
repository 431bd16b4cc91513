import AssistedDialing.Proofs.CountryLists
import AssistedDialing.Proofs.EmergencyCalls

/-!
# Further emergency numbers

The configured emergency numbers are looked at in one precondition only, and a longer list can only
turn its finding into a refusal. `report_of_new_number` says what becomes of a report then: it is a
refusal for an emergency number if the check got past them before, and otherwise what it was.
-/

namespace AssistedDialing

open Emergency (stripSeparators operatorNumbers)
open Text (IsBlankText)

namespace Emergency

/-- A blank text dials nothing. -/
theorem stripSeparators_of_isBlankText {text : String} (h : IsBlankText text) :
    stripSeparators text = "" := by
  rw [← String.toList_inj, toList_stripSeparators, String.toList_empty, List.filter_eq_nil_iff]
  intro c hc hdialled
  rw [not_isDialled_of_isBlank (h c hc)] at hdialled
  exact Bool.false_ne_true hdialled

/-- `Lists numbers raw` says that `raw` dials something, and that a number of the list, one that is
not blank, dials the same. -/
def Lists (numbers : List String) (raw : String) : Prop :=
  stripSeparators raw ≠ "" ∧
    ∃ number ∈ numbers, ¬ IsBlankText number ∧ stripSeparators number = stripSeparators raw

theorem lists_iff {numbers : List String} {raw : String} :
    Lists numbers raw ↔ stripSeparators raw ∈ operatorNumbers numbers := by
  rw [Lists, mem_operatorNumbers]
  refine and_congr_right fun hdials ↦ exists_congr fun number ↦ and_congr_right fun _ ↦
    and_iff_right_of_imp fun hsame hblank ↦ ?_
  exact hdials (hsame ▸ stripSeparators_of_isBlankText hblank)

theorem lists_append {numbers more : List String} {raw : String} :
    Lists (numbers ++ more) raw ↔ Lists numbers raw ∨ Lists more raw := by
  simp only [Lists, List.mem_append, or_and_right, exists_or, and_or_left]

theorem lists_congr {numbers others : List String}
    (h : ∀ number, number ∈ others ↔ number ∈ numbers) (raw : String) :
    Lists others raw ↔ Lists numbers raw := by
  simp only [Lists, h]

end Emergency

open Emergency (Lists lists_iff lists_append lists_congr)

namespace Settings

/-- `settings.withNumbers numbers` knows the further emergency numbers of a list of texts. -/
def withNumbers (settings : Settings) (numbers : List String) : Settings :=
  { settings with extraEmergencyNumbers := .list (numbers.map .text) }

variable {settings : Settings} {plan : NumberingPlan} {numbers : List String}

theorem isUsable_withNumbers : (settings.withNumbers numbers).isUsable = true := by
  show (numbers.map EmergencyItem.text).all EmergencyItem.isWritable = true
  rw [List.all_map, List.all_eq_true]
  exact fun number _ ↦ rfl

/-- What a classifier recognises by a list comes on top of what it recognises without one. -/
theorem isAnyEmergency_withNumbers {sim network : Option String} {raw : String} :
    ((settings.withNumbers numbers).emergencyClassifier sim network).isAnyEmergency plan raw =
        true ↔
      Lists numbers raw ∨
        ((settings.withNumbers []).emergencyClassifier sim network).isAnyEmergency plan raw =
          true := by
  have hknown (numbers : List String) :
      operatorNumbers ((settings.withNumbers numbers).extraEmergencyNumbers.items
        EmergencyItem.display) = operatorNumbers numbers := by
    show operatorNumbers ((ItemList.list (numbers.map .text)).items EmergencyItem.display) = _
    rw [operatorNumbers_items_list, List.map_map]
    exact congrArg operatorNumbers (List.map_id numbers)
  have hnone : operatorNumbers [] = [] := rfl
  simp only [emergencyClassifier, Emergency.Classifier.isAnyEmergency_ofRegions_iff,
    ← Emergency.mem_operatorNumbers, hknown, hnone, lists_iff, List.not_mem_nil, false_or]
  exact or_left_comm

end Settings

namespace Eligibility.Checker

variable {ε : Type}

/-- `checker.withEmergency service` asks another classifier of emergency numbers. -/
def withEmergency (checker : Checker ε) (service : EmergencyService ε) : Checker ε :=
  { checker with emergency := some service }

/-- The other preconditions do not ask the classifier. -/
theorem finding_withEmergency_of_ne (checker : Checker ε) (service other : EmergencyService ε)
    (number home roaming : Option String) {reason : Reason} (h : reason ≠ .emergencyNumber) :
    (checker.withEmergency service).finding number home roaming reason =
      (checker.withEmergency other).finding number home roaming reason := by
  cases reason with
  | emergencyNumber => exact absurd rfl h
  | _ => rfl

end Eligibility.Checker

namespace Verdict

/-- `verdict.IsPastEmergency` holds for the verdicts of a check that has found no emergency number:
the number is eligible or refused for a later reason. -/
def IsPastEmergency (verdict : Verdict) : Prop :=
  verdict = .eligible ∨ verdict = .ineligible .invalidNumber ∨ verdict = .ineligible .hasExtension

end Verdict

namespace Inquiry

open Eligibility (reaches search)

variable {inquiry : Inquiry} {plan : NumberingPlan} {settings : Settings}
  {numbers more others : List String}

/-- The number of an inquiry is an emergency number if the list has it, or without any list. -/
theorem finding_emergencyNumber_withNumbers (inquiry : Inquiry) (plan : NumberingPlan)
    (settings : Settings) (numbers : List String) :
    inquiry.finding plan (settings.withNumbers numbers) .emergencyNumber = .ok false ↔
      Lists numbers inquiry.number ∨
        inquiry.finding plan (settings.withNumbers []) .emergencyNumber = .ok false := by
  rw [finding_emergencyNumber_eq, finding_emergencyNumber_eq, Except.ok.injEq, Except.ok.injEq,
    Bool.not_eq_false', Bool.not_eq_false']
  exact Settings.isAnyEmergency_withNumbers

theorem finding_emergencyNumber_append (inquiry : Inquiry) (plan : NumberingPlan)
    (settings : Settings) (numbers more : List String) :
    inquiry.finding plan (settings.withNumbers (numbers ++ more)) .emergencyNumber = .ok false ↔
      Lists more inquiry.number ∨
        inquiry.finding plan (settings.withNumbers numbers) .emergencyNumber = .ok false := by
  have hnumbers := inquiry.finding_emergencyNumber_withNumbers plan settings numbers
  rw [finding_emergencyNumber_withNumbers, hnumbers, lists_append, or_left_comm, or_assoc]

theorem finding_withNumbers_of_ne {reason : Reason} (h : reason ≠ .emergencyNumber) :
    inquiry.finding plan (settings.withNumbers others) reason =
      inquiry.finding plan (settings.withNumbers numbers) reason :=
  (inquiry.checker plan settings).finding_withEmergency_of_ne _ _ _ _ _ h

/-- The precondition against emergency numbers holds unless it fails. -/
theorem finding_emergencyNumber_of_ne
    (h : inquiry.finding plan settings .emergencyNumber ≠ .ok false) :
    inquiry.finding plan settings .emergencyNumber = .ok true := by
  rw [finding_emergencyNumber_eq] at h ⊢
  rw [ne_eq, Except.ok.injEq, Bool.not_eq_false] at h
  rw [h]

/-- A check searches its findings for the verdict. -/
theorem verdict_eq_iff {verdict : Verdict} :
    (inquiry.report plan settings).verdict = verdict ↔
      search (inquiry.finding plan settings) Reason.all = .ok verdict := by
  have hsearch : (inquiry.run plan settings).outcome =
      search (inquiry.finding plan settings) Reason.all :=
    Eligibility.Checker.evaluate_searches.1
  rw [verdict_report_iff, hsearch]

/-- A check gets past emergency numbers when it reaches their precondition and finds that it
holds. -/
theorem isPastEmergency_iff :
    (inquiry.report plan settings).verdict.IsPastEmergency ↔
      reaches (inquiry.finding plan settings) Reason.all .emergencyNumber = true ∧
        inquiry.finding plan settings .emergencyNumber = .ok true := by
  constructor
  · intro hpast
    have hpassed : ∀ reason ∈ Reason.all.takeWhile (· ≠ .emergencyNumber) ++ [.emergencyNumber],
        inquiry.finding plan settings reason = .ok true := by
      intro reason hreason
      rcases hpast with heligible | hinvalid | hextension
      · exact verdict_eligible_iff.mp heligible reason
      · exact passed_of_refused hinvalid (by revert hreason; cases reason <;> decide)
      · exact passed_of_refused hextension (by revert hreason; cases reason <;> decide)
    refine ⟨?_, hpassed _ (by decide)⟩
    rw [reaches, List.all_eq_true]
    intro reason hreason
    rw [Eligibility.isMet_iff]
    exact hpassed reason (List.mem_append_left _ hreason)
  · rintro ⟨hreach, hpassed⟩
    rw [reaches, List.all_eq_true] at hreach
    cases hverdict : (inquiry.report plan settings).verdict with
    | eligible => exact .inl rfl
    | ineligible reason =>
        have hrefused := (verdict_ineligible_iff.mp hverdict).2
        -- neither an earlier precondition nor that of emergency numbers has failed
        have hlate : reason ∉ Reason.all.takeWhile (· ≠ .emergencyNumber) := by
          intro hearly
          have hmet := Eligibility.isMet_iff.mp (hreach reason hearly)
          rw [hrefused] at hmet
          cases hmet
        have hother : reason ≠ .emergencyNumber := by
          rintro rfl
          rw [hrefused] at hpassed
          cases hpassed
        right
        revert hlate hother
        cases reason <;> decide

/-- Lists under which the number is alike an emergency number or not lead to the same report. -/
theorem report_withNumbers_congr
    (h : inquiry.finding plan (settings.withNumbers others) .emergencyNumber = .ok false ↔
      inquiry.finding plan (settings.withNumbers numbers) .emergencyNumber = .ok false) :
    inquiry.report plan (settings.withNumbers others) =
      inquiry.report plan (settings.withNumbers numbers) := by
  have hfindings : inquiry.finding plan (settings.withNumbers others) =
      inquiry.finding plan (settings.withNumbers numbers) := by
    funext reason
    by_cases hreason : reason = .emergencyNumber
    · subst hreason
      by_cases hfails :
          inquiry.finding plan (settings.withNumbers numbers) .emergencyNumber = .ok false
      · rw [hfails, h.mpr hfails]
      · rw [finding_emergencyNumber_of_ne hfails, finding_emergencyNumber_of_ne (mt h.mp hfails)]
    · exact finding_withNumbers_of_ne hreason
  have hverdict : (inquiry.report plan (settings.withNumbers others)).verdict =
      (inquiry.report plan (settings.withNumbers numbers)).verdict := by
    rw [verdict_eq_iff, hfindings]
    exact verdict_eq_iff.mp rfl
  exact congrArg (Report.mk _ _ _) hverdict

/-- When the number becomes an emergency number, a check that got past emergency numbers refuses it
for that, and any other check gives the report that it gave before. -/
theorem report_of_new_number
    (hafter : inquiry.finding plan (settings.withNumbers others) .emergencyNumber = .ok false) :
    let before := inquiry.report plan (settings.withNumbers numbers)
    let after := inquiry.report plan (settings.withNumbers others)
    (before.verdict.IsPastEmergency →
        after = { before with verdict := .ineligible .emergencyNumber }) ∧
      (¬ before.verdict.IsPastEmergency → after = before) := by
  intro before after
  by_cases hfails :
      inquiry.finding plan (settings.withNumbers numbers) .emergencyNumber = .ok false
  · constructor
    · intro hpast
      rw [(isPastEmergency_iff.mp hpast).2] at hfails
      cases hfails
    · intro _
      exact report_withNumbers_congr (iff_of_true hafter hfails)
  · have hpassed := finding_emergencyNumber_of_ne hfails
    have hsearch := Eligibility.search_of_withdrawn (Reason.mem_all _) hpassed hafter
      fun reason hreason ↦ finding_withNumbers_of_ne hreason
    constructor
    · intro hpast
      rw [if_pos (isPastEmergency_iff.mp hpast).1] at hsearch
      exact congrArg (Report.mk _ _ _) (verdict_eq_iff.mpr hsearch)
    · intro hpast
      rw [if_neg fun hreach ↦ hpast (isPastEmergency_iff.mpr ⟨hreach, hpassed⟩)] at hsearch
      have hsame := hsearch.trans (verdict_eq_iff.mp rfl)
      exact congrArg (Report.mk _ _ _) (verdict_eq_iff.mpr hsame)

/-- Further emergency numbers only block calls. Adding a list refuses a number that it has, where
the check got past emergency numbers before, and changes nothing else in the report; so what was
ineligible stays so. Neither the order of the numbers nor repetitions matter. -/
theorem report_of_more_numbers (inquiry : Inquiry) (plan : NumberingPlan) (settings : Settings)
    (numbers more : List String) :
    let before := inquiry.report plan (settings.withNumbers numbers)
    let after := inquiry.report plan (settings.withNumbers (numbers ++ more))
    let blocked := Lists more inquiry.number ∧ before.verdict.IsPastEmergency
    (settings.withNumbers numbers).isUsable = true ∧
      (settings.withNumbers (numbers ++ more)).isUsable = true ∧
      (blocked → after = { before with verdict := .ineligible .emergencyNumber }) ∧
      (¬ blocked → after = before) ∧
      (before.verdict.isEligible = false → after.verdict.isEligible = false) ∧
      ∀ others : List String, (∀ number, number ∈ others ↔ number ∈ numbers) →
        inquiry.report plan (settings.withNumbers others) = before := by
  intro before after blocked
  have hfinding := inquiry.finding_emergencyNumber_append plan settings numbers more
  have hblocked : blocked → after = { before with verdict := .ineligible .emergencyNumber } := by
    rintro ⟨hlists, hpast⟩
    exact (report_of_new_number (hfinding.mpr (.inl hlists))).1 hpast
  have hother : ¬ blocked → after = before := by
    intro hnot
    by_cases hlists : Lists more inquiry.number
    · exact (report_of_new_number (hfinding.mpr (.inl hlists))).2 fun hpast ↦ hnot ⟨hlists, hpast⟩
    · exact report_withNumbers_congr (hfinding.trans (or_iff_right hlists))
  refine ⟨Settings.isUsable_withNumbers, Settings.isUsable_withNumbers, hblocked, hother, ?_, ?_⟩
  · intro hineligible
    by_cases h : blocked
    · rw [hblocked h]
      rfl
    · rwa [hother h]
  · intro others hothers
    apply report_withNumbers_congr
    rw [finding_emergencyNumber_withNumbers, lists_congr hothers]
    exact (inquiry.finding_emergencyNumber_withNumbers plan settings numbers).symm

end Inquiry

end AssistedDialing
