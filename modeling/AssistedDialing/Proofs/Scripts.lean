import AssistedDialing.Emergency.Classifier
import AssistedDialing.NumberingPlan.World
import AssistedDialing.Proofs.DigitValue
import Mathlib.Data.List.Forall2

/-!
# Numbers in the digits of another script

`Respelled cs ds` says that `ds` is `cs` with some decimal digits written in other scripts. A region
recognises its emergency numbers in every script (`Respelled.isEmergencyText_eq`), but the list of
further numbers is compared character by character. So a classifier can lose an emergency number
that is written in another script, and `isEmergency_respelled_iff` says exactly when it does.
-/

namespace AssistedDialing

namespace Text

/-- `coversRuns spans starts` holds when each run of ten code points that begins at one of the
ascending `starts` lies within one of the ascending `spans`. -/
def coversRuns (spans : List Span) : List Nat → Bool
  | [] => true
  | start :: starts =>
      match spans.dropWhile fun span ↦ span.last < start with
      | [] => false
      | span :: rest =>
          span.first ≤ start && start + 9 ≤ span.last && coversRuns (span :: rest) starts

/-- Spans that end before a code point do not contain it. -/
theorem inSpans_of_dropWhile {spans : List Span} {start code : Nat}
    (hspans : ∀ span ∈ spans, span.first ≤ span.last) (hstart : start ≤ code)
    (h : inSpans (spans.dropWhile fun span ↦ span.last < start) code = true) :
    inSpans spans code = true := by
  induction spans with
  | nil => exact h
  | cons span spans ih =>
      obtain ⟨hspan, hrest⟩ := List.forall_mem_cons.mp hspans
      by_cases hbefore : span.last < start
      · rw [List.dropWhile_cons_of_pos (by simpa using hbefore)] at h
        rw [inSpans, if_neg (by omega), ih hrest h, Bool.or_true]
      · rwa [List.dropWhile_cons_of_neg (by simpa using hbefore)] at h

theorem inSpans_of_coversRuns {spans : List Span} {starts : List Nat} {start code : Nat}
    (hspans : ∀ span ∈ spans, span.first ≤ span.last) (hstarts : starts.Pairwise (· ≤ ·))
    (h : coversRuns spans starts = true) (hmem : start ∈ starts) (hfirst : start ≤ code)
    (hlast : code ≤ start + 9) : inSpans spans code = true := by
  induction starts generalizing spans with
  | nil => cases hmem
  | cons least starts ih =>
      obtain ⟨hleast, hascending⟩ := List.pairwise_cons.mp hstarts
      rw [coversRuns] at h
      split at h
      · cases h
      · next span rest hdrop =>
        simp only [Bool.and_eq_true, decide_eq_true_eq] at h
        obtain ⟨⟨hspan, hend⟩, hcovers⟩ := h
        have hkept : ∀ kept ∈ span :: rest, kept.first ≤ kept.last := by
          intro kept hin
          rw [← hdrop] at hin
          exact hspans kept ((List.dropWhile_sublist _).subset hin)
        rcases List.mem_cons.mp hmem with rfl | hlater
        · apply inSpans_of_dropWhile hspans hfirst
          rw [hdrop, inSpans, if_neg (by omega)]
          simp [Nat.le_trans hlast hend]
        · apply inSpans_of_dropWhile hspans (Nat.le_trans (hleast _ hlater) hfirst)
          rw [hdrop]
          exact ih hkept hascending hcovers hlater

/-- Decimal digits are word characters. -/
theorem isWord_of_isDecimal {c : Char} (h : isDecimal c = true) : isWord c = true := by
  obtain ⟨value, hvalue⟩ := Option.isSome_iff_exists.mp h
  obtain ⟨start, hstart, hfirst, hlast, -⟩ := exists_start_of_decimalIn hvalue
  have hzeros : decimalZeros = 0x30 :: decimalZeros.tail := rfl
  rw [hzeros, List.mem_cons] at hstart
  rcases hstart with rfl | hscript
  · have hascii : c.toNat < 0x80 := by omega
    simp [isWord, hascii, hfirst, show c.toNat ≤ 57 by omega]
  · have hbeyond : ∀ start ∈ decimalZeros.tail, 0x80 ≤ start := by decide
    have hcode : ¬ c.toNat < 0x80 := by
      have hleast := hbeyond start hscript
      omega
    have hcovers : coversRuns wordSpans decimalZeros.tail = true := by decide
    simp only [isWord, hcode, if_false]
    exact inSpans_of_coversRuns (by decide +kernel) (by decide) hcovers hscript hfirst hlast

/-- A character with a decimal value is none without. -/
theorem ne_of_decimalValue? {c other : Char} {value : Nat} (h : decimalValue? c = some value)
    (hother : decimalValue? other = none) : c ≠ other := by
  rintro rfl
  rw [h] at hother
  cases hother

/-- `SameDigit c d` says that `d` is `c`, or that both are decimal digits of one value. -/
def SameDigit (c d : Char) : Prop :=
  c = d ∨ ∃ value, decimalValue? c = some value ∧ decimalValue? d = some value

/-- What sees of a decimal digit no more than its value does not see its script. -/
theorem SameDigit.apply_eq {α : Type} {c d : Char} (h : SameDigit c d) {f : Char → α}
    (ofValue : Nat → α) (hf : ∀ c value, decimalValue? c = some value → f c = ofValue value) :
    f c = f d := by
  rcases h with rfl | ⟨value, hc, hd⟩
  · rfl
  · rw [hf c value hc, hf d value hd]

/-- `Respelled cs ds` says that `ds` is `cs` with some of its decimal digits replaced by decimal
digits of the same value. -/
def Respelled (cs ds : List Char) : Prop :=
  List.Forall₂ SameDigit cs ds

namespace Respelled

variable {cs ds : List Char}

theorem reverse (h : Respelled cs ds) : Respelled cs.reverse ds.reverse :=
  List.forall₂_reverse_iff.mpr h

/-- What is dropped from the start is the same in every spelling, if it is all digits or none. -/
theorem dropWhile (h : Respelled cs ds) {p : Char → Bool} (answer : Bool)
    (hp : ∀ c value, decimalValue? c = some value → p c = answer) :
    Respelled (cs.dropWhile p) (ds.dropWhile p) := by
  induction h with
  | nil => exact .nil
  | @cons c d cs ds hdigit hrest ih =>
      have hsame := hdigit.apply_eq (fun _ ↦ answer) hp
      cases hc : p c with
      | true =>
          rw [List.dropWhile_cons_of_pos hc, List.dropWhile_cons_of_pos (hsame ▸ hc)]
          exact ih
      | false =>
          rw [List.dropWhile_cons_of_neg (by simp [hc]),
            List.dropWhile_cons_of_neg (by simp [← hsame, hc])]
          exact .cons hdigit hrest

/-- A character that is no digit stands at the start in both spellings or in neither. -/
theorem head?_eq_some_iff (h : Respelled cs ds) (first : Char)
    (hfirst : decimalValue? first = none) : cs.head? = some first ↔ ds.head? = some first := by
  cases h with
  | nil => rfl
  | @cons c d cs ds hdigit hrest =>
      have hsame : (c == first) = (d == first) := by
        refine hdigit.apply_eq (fun _ ↦ false) (f := (· == first)) fun c value hc ↦ ?_
        exact beq_eq_false_iff_ne.mpr (ne_of_decimalValue? hc hfirst)
      simpa using congrArg (· = true) hsame

end Respelled

end Text

namespace Dialled

open Text

theorem isPlus_of_decimalValue? {c : Char} {value : Nat} (h : decimalValue? c = some value) :
    isPlus c = false := by
  have hplus : decimalIn decimalZeros '+'.toNat = none ∧ decimalIn decimalZeros 0xFF0B = none := by
    decide
  rw [isPlus, Bool.or_eq_false_iff, beq_eq_false_iff_ne, beq_eq_false_iff_ne]
  constructor
  · exact ne_of_decimalValue? h hplus.1
  · intro hcode
    rw [decimalValue?, hcode, hplus.2] at h
    cases h

theorem startsNumber_of_decimalValue? {c : Char} {value : Nat} (h : decimalValue? c = some value) :
    startsNumber c = true := by
  simp [startsNumber, isDecimal, h]

/-- A number may end with any digit. -/
theorem isTrailing_of_decimalValue? {c : Char} {value : Nat} (h : decimalValue? c = some value) :
    isTrailing c = false := by
  have hword : isWord c = true := isWord_of_isDecimal (by simp [isDecimal, h])
  have hunderscore : c ≠ '_' := ne_of_decimalValue? h (by decide)
  simp [isTrailing, hword, hunderscore]

end Dialled

namespace Text.Respelled

open Dialled

variable {cs ds : List Char}

theorem beforeSecond (h : Respelled cs ds) :
    Respelled (Dialled.beforeSecond cs) (Dialled.beforeSecond ds) := by
  induction h with
  | nil => exact .nil
  | @cons c d cs ds hdigit hrest ih =>
      have hslash : (c == '/' || c == '\\') = (d == '/' || d == '\\') := by
        refine hdigit.apply_eq (fun _ ↦ false) (f := fun c ↦ c == '/' || c == '\\') ?_
        intro c value hc
        have hslash : c ≠ '/' := ne_of_decimalValue? hc (by decide)
        have hbackslash : c ≠ '\\' := ne_of_decimalValue? hc (by decide)
        simp [hslash, hbackslash]
      have hspaces : Respelled (cs.dropWhile (· == ' ')) (ds.dropWhile (· == ' ')) := by
        refine dropWhile hrest false fun c value hc ↦ ?_
        exact beq_eq_false_iff_ne.mpr (ne_of_decimalValue? hc (by decide))
      have hx := hspaces.head?_eq_some_iff 'x' (by decide)
      simp only [Dialled.beforeSecond, hslash, beq_iff_eq, hx, Bool.and_eq_true]
      split
      · exact .nil
      · exact .cons hdigit ih

/-- The candidate in a text is found alike in every spelling. -/
theorem candidate (h : Respelled cs ds) :
    Respelled (Dialled.candidate cs) (Dialled.candidate ds) := by
  have hstart : Respelled (cs.dropWhile fun c ↦ !startsNumber c)
      (ds.dropWhile fun c ↦ !startsNumber c) := by
    refine h.dropWhile false fun c value hc ↦ ?_
    rw [startsNumber_of_decimalValue? hc, Bool.not_true]
  have hend := hstart.reverse.dropWhile false fun _ _ ↦ isTrailing_of_decimalValue?
  exact hend.reverse.beforeSecond

theorem startsWithPlus_eq (h : Respelled cs ds) : startsWithPlus cs = startsWithPlus ds := by
  cases h with
  | nil => rfl
  | cons hdigit _ => exact hdigit.apply_eq (fun _ ↦ false) fun _ _ ↦ isPlus_of_decimalValue?

/-- The digits in a text are the same in every spelling. -/
theorem digitsOnly_eq (h : Respelled cs ds) : digitsOnly cs = digitsOnly ds := by
  induction h with
  | nil => rfl
  | @cons c d cs ds hdigit _ ih =>
      have hvalue : digitValue? c = digitValue? d := by
        refine hdigit.apply_eq some fun c value hc ↦ ?_
        simp [digitValue?, hc]
      rw [digitsOnly, digitsOnly, List.filterMap_cons, List.filterMap_cons, hvalue]
      rw [digitsOnly, digitsOnly] at ih
      rw [ih]

/-- A region recognises its emergency numbers in every script. -/
theorem isEmergencyText_eq {raw other : String} (h : Respelled raw.toList other.toList)
    (plan : NumberingPlan) (region : String) :
    plan.isEmergencyText raw region = plan.isEmergencyText other region := by
  simp only [NumberingPlan.isEmergencyText, h.candidate.startsWithPlus_eq,
    h.candidate.digitsOnly_eq]

/-- Separators are found alike in every spelling, and no digit is one. -/
theorem stripSeparators {raw other : String} (h : Respelled raw.toList other.toList) :
    Respelled (Emergency.stripSeparators raw).toList (Emergency.stripSeparators other).toList := by
  rw [Emergency.toList_stripSeparators, Emergency.toList_stripSeparators]
  refine List.rel_filter (fun c d hdigit ↦ ?_) h
  have hsame : Emergency.isDialled c = Emergency.isDialled d := by
    refine hdigit.apply_eq (fun _ ↦ true) fun c value hc ↦ ?_
    simp [Emergency.isDialled, isDecimal, hc]
  exact iff_of_eq (congrArg (· = true) hsame)

end Text.Respelled

namespace Emergency.Classifier

open Text (Respelled)

variable {plan : NumberingPlan} {raw other : String}

theorem inRegion_respelled (h : Respelled raw.toList other.toList) (region : Option String) :
    inRegion plan other region = inRegion plan raw region := by
  cases region with
  | none => rfl
  | some region => exact (h.isEmergencyText_eq plan region).symm

/-- Another spelling of a number keeps all its digits, and it is an emergency number of the serving
network exactly when the number is. In general it is one exactly when the number is, unless the list
of numbers has one spelling without the other and the region of the SIM does not have the number. -/
theorem isEmergency_respelled_iff (plan : NumberingPlan) (classifier : Classifier)
    (h : Respelled raw.toList other.toList) :
    Respelled (stripSeparators raw).toList (stripSeparators other).toList ∧
      classifier.isLocalEmergency plan other = classifier.isLocalEmergency plan raw ∧
      (classifier.isEmergency plan other = classifier.isEmergency plan raw ↔
        (stripSeparators other ∈ classifier.numbers ↔
          stripSeparators raw ∈ classifier.numbers) ∨
        inRegion plan raw classifier.simRegion = true) := by
  refine ⟨h.stripSeparators, inRegion_respelled h _, ?_⟩
  rw [isEmergency, isEmergency, inRegion_respelled h]
  cases inRegion plan raw classifier.simRegion with
  | true => simp
  | false =>
      rw [Bool.or_false, Bool.or_false, Bool.eq_iff_iff]
      simp

/-- In Great Britain 911 is an emergency number only by the list, and not in Arabic digits. -/
theorem isEmergency_arabicDigits :
    let classifier : Classifier := .ofRegions (some "GB") none []
    Respelled "911".toList "٩١١".toList ∧ classifier.isEmergency .current "911" = true ∧
      classifier.isEmergency .current "٩١١" = false := by
  intro classifier
  have hrespelled : Respelled "911".toList "٩١١".toList :=
    .cons (.inr ⟨9, by decide⟩) (.cons (.inr ⟨1, by decide⟩) (.cons (.inr ⟨1, by decide⟩) .nil))
  have hraw : classifier.isEmergency .current "911" = true := by decide
  refine ⟨hrespelled, hraw, ?_⟩
  have hlist : ¬ ((stripSeparators "٩١١" ∈ classifier.numbers ↔
      stripSeparators "911" ∈ classifier.numbers) ∨
        inRegion .current "911" classifier.simRegion = true) := by
    decide
  have hlost := mt (isEmergency_respelled_iff .current classifier hrespelled).2.2.mp hlist
  rw [hraw] at hlost
  exact eq_false_of_ne_true hlost

end Emergency.Classifier

end AssistedDialing
