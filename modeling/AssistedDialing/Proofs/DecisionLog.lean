import AssistedDialing.Proofs.Preconditions

/-!
# What the log of a check tells

`account` is what is logged about a verdict: one entry for each precondition on the number that was
checked, and the reason of a refusal. A check that ends logs exactly the account of its verdict,
whatever its collaborators, its number and its countries are (`log_evaluate`). So the verdict can be
read off the log, and a log tells no more than the verdict and, where the number could not be
parsed, the message about that (`log_tells_verdict`).
-/

namespace AssistedDialing.Eligibility

open Text (upper)

variable {ε ε' α β : Type}

/-! ## The log of a run -/

namespace Run

@[simp] theorem log_pure (value : α) : (pure value : Run ε α).log = [] := rfl

@[simp] theorem log_ask (call : Call) (answer : Except ε α) : (ask call answer).log = [] := rfl

@[simp] theorem log_report (entry : Log.Entry) : (report entry : Run ε Unit).log = [entry] := rfl

/-- The entries of a run that succeeds come before those of what follows. -/
theorem log_bind_ok {run : Run ε α} {value : α} (h : run.outcome = .ok value)
    (next : α → Run ε β) : (run >>= next).log = run.log ++ (next value).log := by
  show (run.bind next).log = _
  simp [Run.bind, h]

@[simp] theorem log_map (f : α → β) (run : Run ε α) : (f <$> run).log = run.log := by
  show (run.bind (pure ∘ f)).log = _
  cases h : run.outcome <;> simp [Run.bind, h]

end Run

@[simp] theorem log_refuse (reason : Reason) :
    (refuse reason : Run ε Verdict).log = [refusal reason] := rfl

/-- Asking for emergency numbers leaves no entry. -/
theorem log_isAnyEmergency (service : EmergencyService ε) (raw : String) :
    (isAnyEmergency service raw).log = [] := by
  rcases hgeneral : service.isEmergency raw with error | _ | _
  all_goals
    show ((Run.ask _ _).bind _).log = []
    simp [Run.bind, Run.ask, hgeneral]

/-- `passed reasons` is the entries about preconditions that hold. -/
def passed (reasons : List Reason) : List Log.Entry :=
  reasons.map fun reason ↦ checked reason true

/-- `decisive reasons verdict` is what a search through `reasons` logs that ends with a verdict: the
preconditions before the decisive one hold, its own fails, and the number is refused. -/
def decisive (reasons : List Reason) : Verdict → List Log.Entry
  | .eligible => passed reasons
  | .ineligible reason =>
      passed (reasons.takeWhile (· ≠ reason)) ++ [checked reason false, refusal reason]

/-- The entries of a search are decided by its verdict. -/
theorem log_firstFailing {finding : Reason → Except ε Bool}
    {checks : List (Reason × Run ε Bool)} {verdict : Verdict}
    (hfinding : ∀ check ∈ checks, check.2.outcome = finding check.1)
    (hquiet : ∀ check ∈ checks, check.2.log = [])
    (h : search finding (checks.map Prod.fst) = .ok verdict) :
    (firstFailing checks).log = decisive (checks.map Prod.fst) verdict := by
  induction checks with
  | nil =>
      cases h
      rfl
  | cons check checks ih =>
      obtain ⟨reason, precondition⟩ := check
      have hhead : precondition.outcome = finding reason := hfinding _ List.mem_cons_self
      have hsilent : precondition.log = [] := hquiet _ List.mem_cons_self
      have hreport (entry : Log.Entry) : (Run.report entry : Run ε Unit).outcome = .ok () := rfl
      rw [List.map_cons, search] at h
      cases hanswer : finding reason with
      | error error =>
          rw [hanswer] at h
          cases h
      | ok answer =>
          rw [hanswer] at h
          rw [firstFailing, Run.log_bind_ok (hhead.trans hanswer), hsilent,
            Run.log_bind_ok (hreport _)]
          cases answer with
          | false =>
              cases h
              simp [decisive, passed]
          | true =>
              have hrest := ih (fun other hother ↦ hfinding other (List.mem_cons_of_mem _ hother))
                (fun other hother ↦ hquiet other (List.mem_cons_of_mem _ hother)) h
              simp only [if_true, Run.log_report, hrest]
              cases verdict with
              | eligible => rfl
              | ineligible found =>
                  -- the decisive precondition fails, so that it is not this one, which holds
                  have hne : reason ≠ found := by
                    rintro rfl
                    have hfalse := (search_eq_ineligible_iff.mp h).2.2
                    rw [hanswer] at hfalse
                    cases hfalse
                  simp [decisive, passed, hne]

namespace Checker

variable {checker : Checker ε} {number home roaming : Option String}

/-- The preconditions on a number that was read leave no entry themselves. -/
theorem log_of_mem_preconditions {table : Country.Table} {service : EmergencyService ε}
    {raw home roaming : String} {parsed : ParsedNumber} {check : Reason × Run ε Bool}
    (hcheck : check ∈ checker.preconditions table service raw home roaming parsed) :
    check.2.log = [] := by
  simp only [preconditions, List.mem_cons, List.not_mem_nil, or_false] at hcheck
  rcases hcheck with rfl | rfl | rfl | rfl | rfl | rfl
  · rfl
  · rfl
  · rfl
  · show ((fun answer ↦ !answer) <$> isAnyEmergency service raw : Run ε Bool).log = []
    rw [Run.log_map, log_isAnyEmergency]
  · rfl
  · rfl

/-- `checker.failure? number home` is why the parser cannot read a number, if it says so. -/
def failure? (checker : Checker ε) (number home : Option String) : Option ParseFailure :=
  match checker.parser with
  | some parser =>
      match parser (number.getD "") (upper (home.getD "")) with
      | .ok (.error failure) => some failure
      | _ => none
  | none => none

end Checker

/-! ## The account of a verdict -/

/-- The reasons against a number that was read. -/
def examined : List Reason :=
  [.unsupportedCountry, .notRoaming, .alreadyInternational, .emergencyNumber, .invalidNumber,
   .hasExtension]

/-- `account failure? verdict` is the log of a check with a verdict, where `failure?` is why the
number could not be read. -/
def account (failure? : Option ParseFailure) : Verdict → List Log.Entry
  | .eligible => decisive examined .eligible
  | .ineligible .parseFailure => failure?.toList.map unparsable ++ [refusal .parseFailure]
  | .ineligible reason =>
      if reason ∈ examined then decisive examined (.ineligible reason) else [refusal reason]

/-- `recovered log` is the verdict that a log tells: the last entry refuses the number for a reason,
or else the number is eligible. -/
def recovered (log : List Log.Entry) : Verdict :=
  match Reason.all.find? fun reason ↦ log.getLast? = some (refusal reason) with
  | some reason => .ineligible reason
  | none => .eligible

theorem refusal_inj {reason other : Reason} : refusal reason = refusal other ↔ reason = other := by
  cases reason <;> cases other <;> decide

theorem unparsable_inj {failure other : ParseFailure} :
    unparsable failure = unparsable other ↔ failure.message = other.message := by
  simp [unparsable, String.append_right_inj]

/-- An account of a refusal ends with it. -/
theorem getLast?_account (failure? : Option ParseFailure) (reason : Reason) :
    (account failure? (.ineligible reason)).getLast? = some (refusal reason) := by
  cases reason <;> simp [account, examined, decisive]

/-- The verdict can be read off its account. -/
theorem recovered_account (failure? : Option ParseFailure) (verdict : Verdict) :
    recovered (account failure? verdict) = verdict := by
  cases verdict with
  | eligible =>
      -- the last entry is about a precondition, and no refusal has its level
      rfl
  | ineligible reason =>
      have hfind : (Reason.all.find? fun other ↦
          (account failure? (.ineligible reason)).getLast? = some (refusal other)) =
            some reason := by
        simp only [getLast?_account, Option.some.injEq, refusal_inj]
        cases reason <;> decide
      rw [recovered, hfind]

/-- Two accounts are the same exactly when the verdicts are, and for numbers that could not be read
the messages. -/
theorem account_eq_iff {failure? failure?' : Option ParseFailure} {verdict verdict' : Verdict} :
    account failure? verdict = account failure?' verdict' ↔
      verdict = verdict' ∧ (verdict = .ineligible .parseFailure →
        failure?.map ParseFailure.message = failure?'.map ParseFailure.message) := by
  constructor
  · intro h
    have hverdict : verdict = verdict' := by
      rw [← recovered_account failure? verdict, h, recovered_account]
    refine ⟨hverdict, ?_⟩
    rintro rfl
    subst hverdict
    have hmessages := List.append_cancel_right h
    cases failure? <;> cases failure?' <;> simp_all [unparsable_inj]
  · rintro ⟨rfl, hmessage⟩
    by_cases hparse : verdict = .ineligible .parseFailure
    · subst hparse
      have hmessages := hmessage rfl
      cases failure? <;> cases failure?' <;> simp_all [account, unparsable_inj]
    · -- no other account looks at the failure
      rcases verdict with _ | reason
      · rfl
      · cases reason <;> first | rfl | exact absurd rfl hparse

/-! ## The log of a check -/

namespace Checker

variable {checker : Checker ε} {number home roaming : Option String} {verdict : Verdict}

/-- With all collaborators and texts given, a check logs the account of its verdict. -/
theorem log_evaluate_of_given
    {parser : String → String → Except ε (Except ParseFailure ParsedNumber)}
    {service : EmergencyService ε} {table : Country.Table}
    (hparser : checker.parser = some parser) (hservice : checker.emergency = some service)
    (htable : checker.table = some table) (hnumber : number.getD "" ≠ "")
    (hhome : home.getD "" ≠ "") (hroaming : roaming.getD "" ≠ "")
    (h : (checker.evaluate number home roaming).outcome = .ok verdict) :
    (checker.evaluate number home roaming).log =
      account (checker.failure? number home) verdict := by
  rw [evaluate_of_given hparser hservice htable hnumber hhome hroaming] at h ⊢
  cases hanswer : parser (number.getD "") (upper (home.getD "")) with
  | error error =>
      rw [Run.outcome_bind, Run.outcome_ask, hanswer] at h
      cases h
  | ok result =>
      have hask : (Run.ask (.parse (number.getD "") (upper (home.getD "")))
          (.ok result : Except ε (Except ParseFailure ParsedNumber))).outcome = .ok result := rfl
      rw [hanswer, Run.outcome_bind, hask] at h
      rw [Run.log_bind_ok hask, Run.log_ask, List.nil_append]
      cases result with
      | error failure =>
          have hfailure : checker.failure? number home = some failure := by
            simp only [failure?, hparser, hanswer]
          cases h
          rw [hfailure]
          rfl
      | ok parsed =>
          have hreading : checker.reading number home = .ok (some parsed) := by
            simp [reading, hparser, hanswer, Except.map, Except.toOption]
          have hagree (check) (hcheck : check ∈ checker.preconditions table service
              (number.getD "") (upper (home.getD "")) (upper (roaming.getD "")) parsed) :=
            (preconditions_agree htable hservice hreading hcheck).1
          have hsearch : search (checker.finding number home roaming) examined = .ok verdict := by
            rw [← h]
            exact (outcome_firstFailing hagree).symm
          have hlog := log_firstFailing hagree (fun check ↦ log_of_mem_preconditions) hsearch
          show (firstFailing _).log = _
          rw [hlog]
          show decisive examined verdict = _
          cases verdict with
          | eligible => rfl
          | ineligible reason =>
              -- only a precondition on the number that was read can have failed
              have hmem := (search_eq_ineligible_iff.mp hsearch).1
              simp only [examined, List.mem_cons, List.not_mem_nil, or_false] at hmem
              rcases hmem with rfl | rfl | rfl | rfl | rfl | rfl <;> rfl

/-- A check that refuses a number before it is read logs the refusal alone. -/
theorem log_of_refuse (reason : Reason)
    (hrefuse : checker.evaluate number home roaming = refuse reason)
    (hearly : reason ∈ Reason.all.take 5)
    (h : (checker.evaluate number home roaming).outcome = .ok verdict) :
    (checker.evaluate number home roaming).log =
      account (checker.failure? number home) verdict := by
  rw [hrefuse] at h ⊢
  cases h
  simp only [Reason.all, List.take, List.mem_cons, List.not_mem_nil, or_false] at hearly
  rcases hearly with rfl | rfl | rfl | rfl | rfl <;> rfl

/-- A check that ends logs the account of its verdict. -/
theorem log_evaluate (h : (checker.evaluate number home roaming).outcome = .ok verdict) :
    (checker.evaluate number home roaming).log =
      account (checker.failure? number home) verdict := by
  cases hparser : checker.parser with
  | none => exact log_of_refuse .missingContext (by simp only [evaluate, hparser]) (by decide) h
  | some parser =>
  cases hservice : checker.emergency with
  | none =>
      exact log_of_refuse .missingContext (by simp only [evaluate, hparser, hservice]) (by decide) h
  | some service =>
  cases htable : checker.table with
  | none =>
      exact log_of_refuse .missingCountryTable (by simp only [evaluate, hparser, hservice, htable])
        (by decide) h
  | some table =>
  by_cases hnumber : number.getD "" = ""
  · refine log_of_refuse .emptyNumber ?_ (by decide) h
    simp only [evaluate, hparser, hservice, htable, given_eq_none_iff.mpr hnumber]
  by_cases hhome : home.getD "" = ""
  · refine log_of_refuse .emptyHomeCode ?_ (by decide) h
    simp only [evaluate, hparser, hservice, htable, given_of_ne hnumber,
      given_eq_none_iff.mpr hhome]
  by_cases hroaming : roaming.getD "" = ""
  · refine log_of_refuse .emptyRoamCode ?_ (by decide) h
    simp only [evaluate, hparser, hservice, htable, given_of_ne hnumber, given_of_ne hhome,
      given_eq_none_iff.mpr hroaming]
  exact log_evaluate_of_given hparser hservice htable hnumber hhome hroaming h

/-- Where a number is refused because it cannot be read, the parser says why. -/
theorem exists_failure?
    (h : (checker.evaluate number home roaming).outcome = .ok (.ineligible .parseFailure)) :
    ∃ failure, checker.failure? number home = some failure := by
  obtain ⟨hreach, hunread⟩ := evaluate_ineligible_iff.mp h
  cases hparser : checker.parser with
  | none => simp [reaches, Reason.all, finding, hparser] at hreach
  | some parser =>
      simp only [finding, reading, hparser] at hunread
      simp only [failure?, hparser]
      rcases hanswer : parser (number.getD "") (upper (home.getD "")) with error | failure | parsed
      · rw [hanswer] at hunread
        cases hunread
      · exact ⟨failure, rfl⟩
      · rw [hanswer] at hunread
        cases hunread

/-- `checker.NeverFails` says that no collaborator that is present ever fails. -/
structure NeverFails (checker : Checker ε) : Prop where
  parser : ∀ parser ∈ checker.parser, ∀ raw region, ∃ answer, parser raw region = .ok answer
  general : ∀ service ∈ checker.emergency, ∀ raw, ∃ answer, service.isEmergency raw = .ok answer
  localAnswer : ∀ service ∈ checker.emergency, ∀ raw,
    ∃ answer, service.isLocalEmergency raw = .ok answer
  validator : ∀ parsed, ∃ answer, checker.validator parsed = .ok answer

theorem NeverFails.exists_reading (h : checker.NeverFails) :
    ∃ parsed?, checker.reading number home = .ok parsed? := by
  unfold reading
  split
  · next parser hparser =>
    obtain ⟨answer, hanswer⟩ := h.parser parser hparser (number.getD "") (upper (home.getD ""))
    exact ⟨answer.toOption, by rw [hanswer]; rfl⟩
  · exact ⟨none, rfl⟩

/-- A check whose collaborators never fail has a verdict. -/
theorem NeverFails.exists_verdict (h : checker.NeverFails) :
    ∃ verdict, (checker.evaluate number home roaming).outcome = .ok verdict := by
  cases houtcome : (checker.evaluate number home roaming).outcome with
  | ok verdict => exact ⟨verdict, rfl⟩
  | error error =>
      obtain ⟨parsed?, hreading⟩ : ∃ parsed?, checker.reading number home = .ok parsed? :=
        h.exists_reading
      obtain ⟨reason, -, hfinding⟩ := evaluate_error_iff.mp houtcome
      cases reason with
      | missingContext | missingCountryTable | emptyNumber | emptyHomeCode | emptyRoamCode
      | unsupportedCountry | notRoaming => cases hfinding
      | parseFailure | alreadyInternational | hasExtension =>
          rw [finding, hreading] at hfinding
          cases hfinding
      | emergencyNumber =>
          cases hservice : checker.emergency with
          | none =>
              simp only [finding, hservice] at hfinding
              cases hfinding
          | some service =>
              obtain ⟨general, hgeneral⟩ := h.general service hservice (number.getD "")
              obtain ⟨localAnswer, hlocal⟩ := h.localAnswer service hservice (number.getD "")
              cases general <;>
                simp [finding, hservice, EmergencyService.anyEmergency, hgeneral, hlocal,
                  Except.map] at hfinding
      | invalidNumber =>
          rw [finding, hreading] at hfinding
          cases parsed? with
          | none => cases hfinding
          | some parsed =>
              obtain ⟨answer, hanswer⟩ := h.validator parsed
              rw [Except.bind] at hfinding
              cases hanswer.symm.trans hfinding

/-- A check whose collaborators never fail has a verdict, and any check with a verdict logs exactly
its account, off which the verdict can be read. Any two checks, of whatever numbers and countries by
whatever collaborators, log the same exactly when they have the same verdict and, where the numbers
cannot be read, the same message says so. -/
theorem log_tells_verdict (checker : Checker ε) (number home roaming : Option String) :
    let run := checker.evaluate number home roaming
    (checker.NeverFails → ∃ verdict, run.outcome = .ok verdict) ∧
      ∀ verdict, run.outcome = .ok verdict →
        run.log = account (checker.failure? number home) verdict ∧
        (verdict = .ineligible .parseFailure →
          ∃ failure, checker.failure? number home = some failure) ∧
        recovered run.log = verdict ∧
        ∀ (ε' : Type) (other : Checker ε') (number' home' roaming' : Option String) verdict',
          (other.evaluate number' home' roaming').outcome = .ok verdict' →
          (run.log = (other.evaluate number' home' roaming').log ↔
            verdict = verdict' ∧ (verdict = .ineligible .parseFailure →
              (checker.failure? number home).map ParseFailure.message =
                (other.failure? number' home').map ParseFailure.message)) := by
  refine ⟨NeverFails.exists_verdict, fun verdict h ↦ ?_⟩
  have hlog := log_evaluate h
  refine ⟨hlog, ?_, ?_, ?_⟩
  · rintro rfl
    exact exists_failure? h
  · rw [hlog]
    exact recovered_account _ _
  · intro ε' other number' home' roaming' verdict' h'
    rw [hlog, log_evaluate h']
    exact account_eq_iff

end Checker

end AssistedDialing.Eligibility
