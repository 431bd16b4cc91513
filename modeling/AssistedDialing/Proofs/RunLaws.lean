import AssistedDialing.Eligibility.Checker

/-!
# Laws of recorded runs

What a run answers and whom it asks, for each way of building a run. `firstFailing` is the only
loop: `outcome_firstFailing` and `calls_firstFailing` say that it is the search `search` for the
first reason whose finding is not that the precondition holds, and that it asks the questions of the
reasons up to that one.
-/

namespace AssistedDialing.Eligibility

variable {ε α β : Type}

namespace Run

@[simp] theorem outcome_pure (value : α) : (pure value : Run ε α).outcome = .ok value := rfl

@[simp] theorem calls_pure (value : α) : (pure value : Run ε α).calls = [] := rfl

@[simp] theorem outcome_ask (call : Call) (answer : Except ε α) :
    (ask call answer).outcome = answer := rfl

@[simp] theorem calls_ask (call : Call) (answer : Except ε α) :
    (ask call answer).calls = [call] := rfl

@[simp] theorem outcome_report (entry : Log.Entry) :
    (report entry : Run ε Unit).outcome = .ok () := rfl

@[simp] theorem calls_report (entry : Log.Entry) : (report entry : Run ε Unit).calls = [] := rfl

/-- A run goes on with the value that it has reached, and stops at a failure. -/
theorem outcome_bind (run : Run ε α) (next : α → Run ε β) :
    (run >>= next).outcome = run.outcome.bind fun value ↦ (next value).outcome := by
  show (run.bind next).outcome = _
  cases h : run.outcome <;> simp [Run.bind, Except.bind, h]

/-- The questions of a run that succeeds come before those of what follows. -/
theorem calls_bind_ok {run : Run ε α} {value : α} (h : run.outcome = .ok value)
    (next : α → Run ε β) : (run >>= next).calls = run.calls ++ (next value).calls := by
  show (run.bind next).calls = _
  simp [Run.bind, h]

/-- Nobody is asked after a failure. -/
theorem calls_bind_error {run : Run ε α} {error : ε} (h : run.outcome = .error error)
    (next : α → Run ε β) : (run >>= next).calls = run.calls := by
  show (run.bind next).calls = _
  simp [Run.bind, h]

@[simp] theorem outcome_map (f : α → β) (run : Run ε α) :
    (f <$> run).outcome = run.outcome.map f := by
  show (run.bind (pure ∘ f)).outcome = _
  cases h : run.outcome <;> simp [Run.bind, Except.map, h]

@[simp] theorem calls_map (f : α → β) (run : Run ε α) : (f <$> run).calls = run.calls := by
  show (run.bind (pure ∘ f)).calls = _
  cases h : run.outcome <;> simp [Run.bind, h]

end Run

@[simp] theorem outcome_refuse (reason : Reason) :
    (refuse reason : Run ε Verdict).outcome = .ok (.ineligible reason) := rfl

@[simp] theorem calls_refuse (reason : Reason) : (refuse reason : Run ε Verdict).calls = [] := rfl

/-- `search finding reasons` is the verdict for the first of the reasons whose finding is not that
its precondition holds. A finding that failed is the failure of the search. -/
@[simp]
def search (finding : Reason → Except ε Bool) : List Reason → Except ε Verdict
  | [] => .ok .eligible
  | reason :: reasons =>
      match finding reason with
      | .ok true => search finding reasons
      | .ok false => .ok (.ineligible reason)
      | .error error => .error error

/-- `isMet finding` holds when the finding is that a precondition holds. -/
@[simp]
def isMet : Except ε Bool → Bool
  | .ok true => true
  | _ => false

@[simp] theorem isMet_iff {finding : Except ε Bool} : isMet finding = true ↔ finding = .ok true := by
  rcases finding with error | _ | _ <;> simp [isMet]

/-- `asked finding questions reasons` is the questions of the reasons up to the first whose finding
is not that its precondition holds. -/
@[simp]
def asked (finding : Reason → Except ε Bool) (questions : Reason → List Call) :
    List Reason → List Call
  | [] => []
  | reason :: reasons =>
      questions reason ++ if isMet (finding reason) then asked finding questions reasons else []

variable {finding : Reason → Except ε Bool} {questions : Reason → List Call}

/-- Preconditions that answer by their findings are searched for the first that fails. -/
theorem outcome_firstFailing {checks : List (Reason × Run ε Bool)}
    (hfinding : ∀ check ∈ checks, check.2.outcome = finding check.1) :
    (firstFailing checks).outcome = search finding (checks.map Prod.fst) := by
  induction checks with
  | nil => rfl
  | cons check checks ih =>
      obtain ⟨reason, precondition⟩ := check
      have hhead : precondition.outcome = finding reason := hfinding _ List.mem_cons_self
      have htail := ih fun other hother ↦ hfinding other (List.mem_cons_of_mem _ hother)
      rcases hanswer : finding reason with error | _ | _ <;>
        simp [firstFailing, search, Run.outcome_bind, Except.bind, hhead, hanswer, htail]

/-- Preconditions are asked for up to the first that fails. -/
theorem calls_firstFailing {checks : List (Reason × Run ε Bool)}
    (hfinding : ∀ check ∈ checks, check.2.outcome = finding check.1)
    (hquestions : ∀ check ∈ checks, check.2.calls = questions check.1) :
    (firstFailing checks).calls = asked finding questions (checks.map Prod.fst) := by
  induction checks with
  | nil => rfl
  | cons check checks ih =>
      obtain ⟨reason, precondition⟩ := check
      have hhead : precondition.outcome = finding reason := hfinding _ List.mem_cons_self
      have hcalls : precondition.calls = questions reason := hquestions _ List.mem_cons_self
      have htail := ih (fun other hother ↦ hfinding other (List.mem_cons_of_mem _ hother))
        fun other hother ↦ hquestions other (List.mem_cons_of_mem _ hother)
      cases hanswer : finding reason with
      | error error =>
          simp [firstFailing, asked, isMet, hcalls, hanswer,
            Run.calls_bind_error (hhead.trans hanswer)]
      | ok passed =>
          -- the report on a precondition comes between its questions and those of the next
          have hreport (entry : Log.Entry) : (Run.report entry : Run ε Unit).outcome = .ok () := rfl
          cases passed <;>
            simp [firstFailing, asked, isMet, hcalls, hanswer, htail,
              Run.calls_bind_ok (hhead.trans hanswer), Run.calls_bind_ok (hreport _)]

/-- `reaches finding reasons reason` holds when the findings on all reasons before `reason` are that
their preconditions hold. -/
def reaches (finding : Reason → Except ε Bool) (reasons : List Reason) (reason : Reason) : Bool :=
  (reasons.takeWhile (· ≠ reason)).all fun earlier ↦ isMet (finding earlier)

/-- The first reason is reached in any case. -/
@[simp] theorem reaches_cons_self (reason : Reason) (reasons : List Reason) :
    reaches finding (reason :: reasons) reason = true := by
  simp [reaches]

/-- A later reason is reached from the first one when the first precondition holds. -/
theorem reaches_cons_of_ne {first reason : Reason} (hne : first ≠ reason)
    (reasons : List Reason) :
    reaches finding (first :: reasons) reason =
      (isMet (finding first) && reaches finding reasons reason) := by
  simp [reaches, hne]

/-- A search finds nothing exactly when every precondition holds. -/
theorem search_eq_eligible_iff {reasons : List Reason} :
    search finding reasons = .ok .eligible ↔ ∀ reason ∈ reasons, finding reason = .ok true := by
  induction reasons with
  | nil => simp [search]
  | cons first reasons ih =>
      rcases hfirst : finding first with error | _ | _ <;> simp [search, hfirst, ih]

/-- A search finds a reason exactly when it reaches it and the precondition fails. -/
theorem search_eq_ineligible_iff {reasons : List Reason} {reason : Reason} :
    search finding reasons = .ok (.ineligible reason) ↔
      reason ∈ reasons ∧ reaches finding reasons reason = true ∧ finding reason = .ok false := by
  induction reasons with
  | nil => simp [search]
  | cons first reasons ih =>
      by_cases heq : first = reason
      · subst heq
        rcases hfirst : finding first with error | _ | _ <;> simp [search, hfirst, ih]
      · have hne : ¬ reason = first := fun h ↦ heq h.symm
        rcases hfirst : finding first with error | _ | _ <;>
          simp [search, hfirst, ih, heq, hne, isMet, reaches_cons_of_ne heq]

/-- A search fails exactly when it reaches a reason whose finding failed. -/
theorem search_eq_error_iff {reasons : List Reason} {error : ε} :
    search finding reasons = .error error ↔
      ∃ reason ∈ reasons, reaches finding reasons reason = true ∧
        finding reason = .error error := by
  induction reasons with
  | nil => simp [search]
  | cons first reasons ih =>
      constructor
      · intro h
        rcases hfirst : finding first with failure | _ | _
        · simp only [search, hfirst, Except.error.injEq] at h
          exact ⟨first, List.mem_cons_self, reaches_cons_self _ _, by rw [hfirst, h]⟩
        · simp [search, hfirst] at h
        · simp only [search, hfirst] at h
          obtain ⟨reason, hmem, hreach, herror⟩ := ih.mp h
          have hne : first ≠ reason := by
            rintro rfl
            simp [hfirst] at herror
          refine ⟨reason, List.mem_cons_of_mem _ hmem, ?_, herror⟩
          simp [reaches_cons_of_ne hne, hfirst, hreach]
      · rintro ⟨reason, hmem, hreach, herror⟩
        by_cases heq : first = reason
        · simp [search, heq, herror]
        · have hrest : reason ∈ reasons := by
            rcases List.mem_cons.mp hmem with rfl | hrest
            · exact absurd rfl heq
            · exact hrest
          simp only [reaches_cons_of_ne heq, Bool.and_eq_true, isMet_iff] at hreach
          simpa [search, hreach.1] using ih.mpr ⟨reason, hrest, hreach.2, herror⟩

/-- When a precondition fails and all before it answer, the search ends at it or earlier. -/
theorem search_of_false {reasons : List Reason} {reason : Reason}
    (hmem : reason ∈ reasons) (hfalse : finding reason = .ok false)
    (hanswers : ∀ earlier ∈ reasons.takeWhile (· ≠ reason),
      ∃ answer, finding earlier = .ok answer) :
    ∃ first, search finding reasons = .ok (.ineligible first) ∧
      first ∈ reasons.takeWhile (· ≠ reason) ++ [reason] := by
  induction reasons with
  | nil => cases hmem
  | cons earlier reasons ih =>
      by_cases heq : earlier = reason
      · subst heq
        exact ⟨earlier, by simp [search, hfalse], by simp⟩
      · rw [List.takeWhile_cons_of_pos (by simpa using heq)] at hanswers ⊢
        obtain ⟨answer, hanswer⟩ := hanswers earlier List.mem_cons_self
        cases answer with
        | false => exact ⟨earlier, by simp [search, hanswer], List.mem_cons_self⟩
        | true =>
            have hrest : reason ∈ reasons := List.mem_of_ne_of_mem (Ne.symm heq) hmem
            obtain ⟨first, hsearch, hfirst⟩ :=
              ih hrest fun other hother ↦ hanswers other (List.mem_cons_of_mem _ hother)
            exact ⟨first, by rw [search, hanswer]; exact hsearch, List.mem_cons_of_mem _ hfirst⟩

/-- When one precondition no longer holds, a search that reaches it ends there, and any other search
is as it was. -/
theorem search_of_withdrawn {other : Reason → Except ε Bool} {reasons : List Reason}
    {reason : Reason} (hmem : reason ∈ reasons) (hheld : finding reason = .ok true)
    (hfails : other reason = .ok false)
    (hsame : ∀ rest, rest ≠ reason → other rest = finding rest) :
    search other reasons =
      if reaches finding reasons reason then .ok (.ineligible reason)
      else search finding reasons := by
  induction reasons with
  | nil => cases hmem
  | cons first reasons ih =>
      by_cases heq : first = reason
      · subst heq
        rw [reaches_cons_self, if_pos rfl, search, hfails]
      · have hrest : reason ∈ reasons := List.mem_of_ne_of_mem (Ne.symm heq) hmem
        rw [reaches_cons_of_ne heq, search, search, hsame first heq]
        rcases finding first with error | _ | _
        · rfl
        · rfl
        · exact ih hrest

/-- The questions asked are those of the reasons that the search reaches. -/
theorem asked_eq_flatMap {reasons : List Reason} (hnodup : reasons.Nodup) :
    asked finding questions reasons =
      (reasons.filter (reaches finding reasons)).flatMap questions := by
  induction reasons with
  | nil => rfl
  | cons first reasons ih =>
      obtain ⟨hfirst, hrest⟩ := List.nodup_cons.mp hnodup
      -- the first reason is not among the others, so each of them is reached through it
      have hfilter : reasons.filter (reaches finding (first :: reasons)) =
          reasons.filter fun reason ↦ isMet (finding first) && reaches finding reasons reason := by
        apply List.filter_congr
        intro reason hmem
        refine reaches_cons_of_ne ?_ _
        rintro rfl
        exact hfirst hmem
      rw [asked, List.filter_cons_of_pos (reaches_cons_self _ _), List.flatMap_cons, hfilter]
      cases isMet (finding first) with
      | false => simp
      | true => simp [ih hrest]

end AssistedDialing.Eligibility
