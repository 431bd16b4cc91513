import AssistedDialing.Proofs.ParserContract
import Mathlib.Data.List.DropRight

/-!
# Numbers in international form

A text is in international form when its number starts with a plus sign. What is dialled for such a
text still starts with that sign (`startsWithPlus_of_dialled`), so the number that is read has a
calling code of its own, and `evaluate_of_international` refuses it, whatever the other
collaborators of a check answer.
-/

namespace AssistedDialing

namespace Text

/-- A text is taken apart at the first occurrence of another. -/
theorem append_of_splitAtFirst {needle cs before behind : List Char}
    (h : splitAtFirst needle cs = some (before, behind)) : before ++ (needle ++ behind) = cs := by
  induction cs generalizing before with
  | nil =>
      rw [splitAtFirst] at h
      split at h
      · next hempty =>
        cases h
        simpa using hempty
      · cases h
  | cons c cs ih =>
      rw [splitAtFirst] at h
      split at h
      · next hhere =>
        cases h
        exact List.prefix_iff_eq_append.mp (List.isPrefixOf_iff_prefix.mp hhere)
      · obtain ⟨⟨rest, later⟩, hrest, heq⟩ := Option.map_eq_some_iff.mp h
        cases heq
        rw [List.cons_append, ih hrest]

theorem splitAtFirst_eq_none_of_not_infix {needle cs : List Char} (h : ¬ needle <:+: cs) :
    splitAtFirst needle cs = none := by
  cases hsplit : splitAtFirst needle cs with
  | none => rfl
  | some parts =>
      obtain ⟨before, behind⟩ := parts
      refine absurd ⟨before, behind, ?_⟩ h
      rw [List.append_assoc]
      exact append_of_splitAtFirst hsplit

end Text

namespace Dialled

open Text

/-- `IsInternational cs` says that the first plus sign or digit in `cs` is a plus sign. -/
def IsInternational (cs : List Char) : Prop :=
  (cs.find? startsNumber).any isPlus = true

instance (cs : List Char) : Decidable (IsInternational cs) :=
  inferInstanceAs (Decidable (_ = true))

theorem beforeSecond_isPrefix (cs : List Char) : beforeSecond cs <+: cs := by
  induction cs with
  | nil => exact List.prefix_rfl
  | cons c cs ih =>
      rw [beforeSecond]
      split
      · exact List.nil_prefix
      · exact (List.prefix_cons_inj c).mpr ih

theorem candidate_isPrefix (cs : List Char) :
    candidate cs <+: cs.dropWhile fun c ↦ !startsNumber c :=
  (beforeSecond_isPrefix _).trans (List.rdropWhile_prefix isTrailing _)

theorem withoutSubaddress_isPrefix (cs : List Char) : withoutSubaddress cs <+: cs := by
  unfold withoutSubaddress
  split
  · next before behind hsplit =>
    split
    · exact List.prefix_rfl
    · exact ⟨_, append_of_splitAtFirst hsplit⟩
  · exact List.prefix_rfl

/-- What is dialled for a text in international form starts with the plus sign, if it can be a
number at all. -/
theorem startsWithPlus_of_dialled {cs text : List Char}
    (hcontext : ¬ ";phone-context=".toList <:+: cs) (hplus : IsInternational cs)
    (htext : dialled cs = .ok text) (hviable : isViable text = true) :
    startsWithPlus text = true := by
  rw [dialled, splitAtFirst_eq_none_of_not_infix hcontext] at htext
  have hstart : text <+: cs.dropWhile fun c ↦ !startsNumber c := by
    cases htext
    exact (withoutSubaddress_isPrefix _).trans (candidate_isPrefix cs)
  -- what is viable is not empty, so it has the first character of the candidate
  cases text with
  | nil => cases hviable
  | cons c text =>
      rw [IsInternational, List.find?_eq_head?_dropWhile_not] at hplus
      obtain ⟨rest, hrest⟩ := hstart
      rw [← hrest] at hplus
      exact hplus

/-- A number in international form is read with a calling code of its own. -/
theorem isInternational_of_read {plan : NumberingPlan} {raw region : String}
    (hcontext : ¬ ";phone-context=".toList <:+: raw.toList) (hplus : IsInternational raw.toList)
    {parsed : ParsedNumber} (h : parseNumber plan raw region = .ok parsed) :
    parsed.isInternational = true := by
  unfold parseNumber at h
  split at h
  · next number hread =>
    cases h
    obtain ⟨-, text, htext, hviable, hfrom⟩ := read_readFrom hread
    obtain ⟨hcode, source, hsource, hne⟩ :=
      hfrom.of_plus (startsWithPlus_of_dialled hcontext hplus htext hviable)
    simp [ParsedNumber.isInternational, ParsedNumber.hasCallingCode, ParsedNumber.ofPhoneNumber,
      PhoneNumber.codeSource, hcode, hsource, source.ofNumber_number, hne]
  · cases h

end Dialled

namespace Eligibility

open Dialled (IsInternational)
open Text (upper)

variable {ε : Type}

section International

variable {plan : NumberingPlan} {checker : Checker ε} {raw : String} {home roaming : Option String}
  (hparser : checker.parser = some (planParser plan))
  (hcontext : ¬ ";phone-context=".toList <:+: raw.toList) (hplus : IsInternational raw.toList)
include hparser hcontext hplus

/-- A number in international form never passes for a number of the home country. -/
theorem finding_of_international :
    checker.finding (some raw) home roaming .alreadyInternational = .ok false := by
  have hreading := reading_of_planParser hparser (some raw) home
  rw [Option.getD_some] at hreading
  rw [Checker.finding, hreading]
  cases hparse : parseNumber plan raw (upper (home.getD "")) with
  | error failure => rfl
  | ok parsed =>
      have hown := Dialled.isInternational_of_read hcontext hplus hparse
      simp only [ParsedNumber.isInternational, ParsedNumber.hasCallingCode, Bool.and_eq_true,
        bne_iff_ne, ne_eq] at hown
      simp [Except.toOption, Except.map, hown.1, hown.2]

omit hcontext in
/-- A check reaches the calling code of a number in international form when all collaborators and
codes are given, the number can be read, and the user is roaming between supported countries. -/
theorem reaches_alreadyInternational_iff :
    reaches (checker.finding (some raw) home roaming) Reason.all .alreadyInternational = true ↔
      checker.emergency.isSome = true ∧ home.getD "" ≠ "" ∧ roaming.getD "" ≠ "" ∧
        (∃ parsed, parseNumber plan raw (upper (home.getD "")) = .ok parsed) ∧
          (∃ table, checker.table = some table ∧
            table.isSupported (upper (home.getD "")) = true ∧
              table.isSupported (upper (roaming.getD "")) = true) ∧
            upper (home.getD "") ≠ upper (roaming.getD "") := by
  have hreading := reading_of_planParser hparser (some raw) home
  have hraw : raw ≠ "" := by
    rintro rfl
    cases hplus
  have hreached : reaches (checker.finding (some raw) home roaming) Reason.all
      .alreadyInternational = true ↔ ∀ earlier ∈ [Reason.missingContext, .missingCountryTable,
        .emptyNumber, .emptyHomeCode, .emptyRoamCode, .parseFailure, .unsupportedCountry,
        .notRoaming], checker.finding (some raw) home roaming earlier = .ok true := by
    rw [reaches, List.all_eq_true]
    exact forall₂_congr fun _ _ ↦ isMet_iff
  have hservice : checker.finding (some raw) home roaming .missingContext = .ok true ↔
      checker.emergency.isSome = true := by
    simp [Checker.finding, hparser]
  have hgiven : checker.finding (some raw) home roaming .emptyNumber = .ok true := by
    simp [Checker.finding, hraw]
  have hread : checker.finding (some raw) home roaming .parseFailure = .ok true ↔
      ∃ parsed, parseNumber plan raw (upper (home.getD "")) = .ok parsed := by
    rw [Checker.finding, hreading, Option.getD_some]
    cases parseNumber plan raw (upper (home.getD "")) <;> simp [Except.toOption, Except.map]
  have hsupported : checker.finding (some raw) home roaming .missingCountryTable = .ok true ∧
      checker.finding (some raw) home roaming .unsupportedCountry = .ok true ↔
        ∃ table, checker.table = some table ∧
          table.isSupported (upper (home.getD "")) = true ∧
            table.isSupported (upper (roaming.getD "")) = true := by
    cases htable : checker.table <;> simp [Checker.finding, htable]
  have hhome : checker.finding (some raw) home roaming .emptyHomeCode = .ok true ↔
      home.getD "" ≠ "" := by
    simp [Checker.finding]
  have hroaming : checker.finding (some raw) home roaming .emptyRoamCode = .ok true ↔
      roaming.getD "" ≠ "" := by
    simp [Checker.finding]
  have hdiffer : checker.finding (some raw) home roaming .notRoaming = .ok true ↔
      upper (home.getD "") ≠ upper (roaming.getD "") := by
    simp [Checker.finding]
  rw [hreached, ← hservice, ← hread, ← hsupported, ← hhome, ← hroaming, ← hdiffer]
  simp only [List.forall_mem_cons, hgiven]
  constructor
  · rintro ⟨hpresent, htable, -, hhome, hroaming, hread, hsupported, hdiffer, -⟩
    exact ⟨hpresent, hhome, hroaming, hread, ⟨htable, hsupported⟩, hdiffer⟩
  · rintro ⟨hpresent, hhome, hroaming, hread, ⟨htable, hsupported⟩, hdiffer⟩
    exact ⟨hpresent, htable, trivial, hhome, hroaming, hread, hsupported, hdiffer, by simp⟩

/-- A number in international form is refused, whatever the collaborators other than the parser
answer. The reason is that form, exactly when nothing that is checked before is missing or wrong. -/
theorem evaluate_of_international (home roaming : Option String) :
    (∃ reason, (checker.evaluate (some raw) home roaming).outcome = .ok (.ineligible reason) ∧
      reason ∈ Reason.all.takeWhile (· ≠ .alreadyInternational) ++ [.alreadyInternational]) ∧
      ((checker.evaluate (some raw) home roaming).outcome =
          .ok (.ineligible .alreadyInternational) ↔
        checker.emergency.isSome = true ∧ home.getD "" ≠ "" ∧ roaming.getD "" ≠ "" ∧
          (∃ parsed, parseNumber plan raw (upper (home.getD "")) = .ok parsed) ∧
            (∃ table, checker.table = some table ∧
              table.isSupported (upper (home.getD "")) = true ∧
                table.isSupported (upper (roaming.getD "")) = true) ∧
              upper (home.getD "") ≠ upper (roaming.getD "")) := by
  have hown : checker.finding (some raw) home roaming .alreadyInternational = .ok false :=
    finding_of_international hparser hcontext hplus
  constructor
  · rw [Checker.evaluate_searches.1]
    refine search_of_false (Reason.mem_all _) hown fun earlier hearlier ↦ ?_
    -- of the preconditions before, only the one on reading asks a collaborator, which answers
    have hreading := reading_of_planParser hparser (some raw) home
    cases earlier with
    | missingContext | missingCountryTable | emptyNumber | emptyHomeCode | emptyRoamCode
    | unsupportedCountry | notRoaming => exact ⟨_, rfl⟩
    | parseFailure => exact ⟨_, by rw [Checker.finding, hreading]; rfl⟩
    | alreadyInternational => exact ⟨_, hown⟩
    | emergencyNumber | invalidNumber | hasExtension => exact absurd hearlier (by decide)
  · rw [Checker.evaluate_ineligible_iff, and_iff_left hown]
    exact reaches_alreadyInternational_iff hparser hplus

end International

/-- A full-width plus sign in parentheses, under the plan in use. The collaborators that would fail
are not asked. -/
theorem evaluate_of_fullWidthPlus :
    let checker : Checker Unit :=
      { parser := some (planParser .current)
        table := some ⟨["CA", "US"]⟩
        emergency := some ⟨fun _ ↦ .error (), fun _ ↦ .error ()⟩
        validator := fun _ ↦ .error () }
    let raw := "(\uff0b1) 650-253-0000"
    checker.parser = some (planParser .current) ∧ ¬ ";phone-context=".toList <:+: raw.toList ∧
      IsInternational raw.toList ∧
      (checker.evaluate (some raw) (some "us") (some "CA")).outcome =
        .ok (.ineligible .alreadyInternational) := by
  intro checker raw
  have hparser : checker.parser = some (planParser .current) := rfl
  have hcontext : ¬ ";phone-context=".toList <:+: raw.toList :=
    fun h ↦ absurd (h.subset List.mem_cons_self) (by decide)
  have hplus : IsInternational raw.toList := by decide
  have hsome : (parseNumber .current raw (upper "us")).toOption.isSome = true := by decide
  have hread : ∃ parsed, parseNumber .current raw (upper "us") = .ok parsed := by
    cases hparse : parseNumber .current raw (upper "us") with
    | error failure => simp [hparse, Except.toOption] at hsome
    | ok parsed => exact ⟨parsed, rfl⟩
  have hreason := (evaluate_of_international hparser hcontext hplus (some "us") (some "CA")).2
  refine ⟨hparser, hcontext, hplus, hreason.mpr ?_⟩
  exact ⟨rfl, by decide, by decide, hread, ⟨⟨["CA", "US"]⟩, rfl, by decide, by decide⟩, by decide⟩

end Eligibility

end AssistedDialing
