import AssistedDialing.Proofs.CountryLists
import AssistedDialing.Proofs.EmergencyCalls

/-!
# Wider tables of countries

A check looks at the table of supported countries in one precondition only. So under a wider table
it runs as it does under the narrow one, unless the narrow one refuses it for an unsupported country
(`evaluate_withTable`). Lists of settings give wider tables when they are extended, except that a
list that names nothing stands for the default table (`codes_subset_append_iff`).
-/

namespace AssistedDialing

open Text (upper IsBlankText)

namespace Country.Table

variable {table wider : Table}

theorem isSupported_mono (h : table.codes ⊆ wider.codes) {code : Option String}
    (hsupported : table.isSupported code = true) : wider.isSupported code = true := by
  rw [isSupported, Bool.and_eq_true, List.contains_iff_mem] at hsupported ⊢
  exact ⟨hsupported.1, h hsupported.2⟩

/-- A wider table supports two codes alike, unless the narrow one does not support both. -/
theorem areSupported_mono (h : table.codes ⊆ wider.codes) {home roaming : Option String}
    (hsupported : table.areSupported home roaming = true) :
    wider.areSupported home roaming = true := by
  rw [areSupported_eq, Bool.and_eq_true] at hsupported ⊢
  exact ⟨isSupported_mono h hsupported.1, isSupported_mono h hsupported.2⟩

end Country.Table

namespace Eligibility.Checker

variable {ε : Type} {checker : Checker ε} {table wider : Country.Table}

/-- `checker.withTable table` has another table of supported countries. -/
def withTable (checker : Checker ε) (table : Country.Table) : Checker ε :=
  { checker with table := some table }

@[simp] theorem parser_withTable (checker : Checker ε) (table : Country.Table) :
    (checker.withTable table).parser = checker.parser := rfl

@[simp] theorem emergency_withTable (checker : Checker ε) (table : Country.Table) :
    (checker.withTable table).emergency = checker.emergency := rfl

@[simp] theorem table_withTable (checker : Checker ε) (table : Country.Table) :
    (checker.withTable table).table = some table := rfl

/-- On a number that was read, tables that treat the codes alike lead to the same run, and a table
that does not support them ends it. -/
theorem goOn_withTable (checker : Checker ε) (service : EmergencyService ε)
    (raw home roaming : String) (answer : Except ParseFailure ParsedNumber)
    (h : table.codes ⊆ wider.codes) :
    (checker.withTable wider).goOn wider service raw home roaming answer =
        (checker.withTable table).goOn table service raw home roaming answer ∨
      ((checker.withTable table).goOn table service raw home roaming answer).outcome =
        .ok (.ineligible .unsupportedCountry) := by
  cases answer with
  | error failure => exact .inl rfl
  | ok parsed =>
      cases hsupported : table.areSupported (some home) (some roaming) with
      | true =>
          have hwider := Country.Table.areSupported_mono h hsupported
          left
          simp only [goOn, preconditions, hsupported, hwider]
          rfl
      | false =>
          right
          simp [goOn, preconditions, hsupported, firstFailing, Run.outcome_bind, Except.bind]

/-- A check under a wider table runs as it does under the narrow one, with the same verdict,
questions and log, unless the narrow one refuses the number for an unsupported country. -/
theorem evaluate_withTable (checker : Checker ε) (number home roaming : Option String)
    (h : table.codes ⊆ wider.codes) :
    (checker.withTable wider).evaluate number home roaming =
        (checker.withTable table).evaluate number home roaming ∨
      ((checker.withTable table).evaluate number home roaming).outcome =
        .ok (.ineligible .unsupportedCountry) := by
  cases hparser : checker.parser with
  | none =>
      left
      simp only [evaluate, parser_withTable, hparser]
  | some parser =>
  cases hservice : checker.emergency with
  | none =>
      left
      simp only [evaluate, parser_withTable, emergency_withTable, hparser, hservice]
  | some service =>
  by_cases hnumber : number.getD "" = ""
  · left
    simp only [evaluate, parser_withTable, emergency_withTable, table_withTable, hparser, hservice,
      given_eq_none_iff.mpr hnumber]
  by_cases hhome : home.getD "" = ""
  · left
    simp only [evaluate, parser_withTable, emergency_withTable, table_withTable, hparser, hservice,
      given_of_ne hnumber, given_eq_none_iff.mpr hhome]
  by_cases hroaming : roaming.getD "" = ""
  · left
    simp only [evaluate, parser_withTable, emergency_withTable, table_withTable, hparser, hservice,
      given_of_ne hnumber, given_of_ne hhome, given_eq_none_iff.mpr hroaming]
  -- with everything given, the table is looked at only after the number was read
  have hrun (table : Country.Table) := evaluate_of_given
    ((checker.parser_withTable table).trans hparser)
    ((checker.emergency_withTable table).trans hservice)
    (checker.table_withTable table) hnumber hhome hroaming
  rw [hrun, hrun]
  cases hanswer : parser (number.getD "") (upper (home.getD "")) with
  | error error =>
      left
      show Run.bind _ _ = Run.bind _ _
      simp only [Run.bind, Run.ask]
  | ok answer =>
      rcases checker.goOn_withTable service (number.getD "") (upper (home.getD ""))
        (upper (roaming.getD "")) answer h with hsame | hrefused
      · left
        show Run.bind _ _ = Run.bind _ _
        simp only [Run.bind, Run.ask, hsame]
      · right
        rw [Run.outcome_bind]
        exact hrefused

end Eligibility.Checker

/-! ## Longer lists of settings -/

namespace Settings

/-- `settings.withCountries codes` supports the countries of a list. -/
def withCountries (settings : Settings) (codes : List String) : Settings :=
  { settings with supportedCountries := .list codes }

/-- `HasPiece codes` says that a piece of a list between its commas is not blank. -/
def HasPiece (codes : List String) : Prop :=
  ∃ item ∈ codes, ∃ piece ∈ Text.pieces item, ¬ IsBlankText piece

/-- `NamesCode codes code` says that `code` is a well-formed normalised piece of a list. -/
def NamesCode (codes : List String) (code : String) : Prop :=
  ∃ item ∈ codes, ∃ piece ∈ Text.pieces item,
    Country.normalizeText piece = code ∧ Country.isWellFormed code = true

variable {settings : Settings} {codes more : List String} {code : String}

theorem hasPiece_append : HasPiece (codes ++ more) ↔ HasPiece codes ∨ HasPiece more := by
  simp only [HasPiece, List.mem_append, or_and_right, exists_or]

theorem namesCode_append :
    NamesCode (codes ++ more) code ↔ NamesCode codes code ∨ NamesCode more code := by
  simp only [NamesCode, List.mem_append, or_and_right, exists_or]

/-- A blank piece names no country. -/
theorem NamesCode.hasPiece (h : NamesCode codes code) : HasPiece codes := by
  obtain ⟨item, hitem, piece, hpiece, rfl, hformed⟩ := h
  refine ⟨item, hitem, piece, hpiece, fun hblank ↦ ?_⟩
  rw [Country.normalizeText_eq_empty_iff.mpr hblank] at hformed
  simp at hformed

/-- The table of a list has the countries that the list names, or the default ones when the list has
blank pieces only. -/
theorem mem_codes_withCountries :
    code ∈ (settings.withCountries codes).countryTable.codes ↔
      NamesCode codes code ∨ ¬ HasPiece codes ∧ code ∈ Country.defaultCodes := by
  have hpieces : (settings.withCountries codes).supportedCountries.pieces =
      codes.flatMap Text.pieces := rfl
  by_cases h : HasPiece codes
  · have hsome : ∃ piece ∈ (settings.withCountries codes).supportedCountries.pieces,
        ¬ IsBlankText piece := by
      obtain ⟨item, hitem, piece, hpiece, hblank⟩ := h
      exact ⟨piece, hpieces ▸ List.mem_flatMap.mpr ⟨item, hitem, hpiece⟩, hblank⟩
    rw [mem_codes_countryTable hsome, hpieces, or_iff_left fun hnone ↦ hnone.1 h]
    simp only [NamesCode, List.mem_flatMap]
    constructor
    · rintro ⟨piece, ⟨item, hitem, hpiece⟩, hcode⟩
      exact ⟨item, hitem, piece, hpiece, hcode⟩
    · rintro ⟨item, hitem, piece, hpiece, hcode⟩
      exact ⟨piece, ⟨item, hitem, hpiece⟩, hcode⟩
  · have hall : ∀ piece ∈ (settings.withCountries codes).supportedCountries.pieces,
        IsBlankText piece := by
      intro piece hpiece
      obtain ⟨item, hitem, hpiece⟩ := List.mem_flatMap.mp (hpieces ▸ hpiece)
      exact not_not.mp fun hblank ↦ h ⟨item, hitem, piece, hpiece, hblank⟩
    rw [codes_countryTable_of_blank hall, or_iff_right fun hnames ↦ h hnames.hasPiece]
    exact (and_iff_right h).symm

/-- A longer list gives a wider table, unless it is the longer list that first names anything and it
leaves a default country out. -/
theorem codes_subset_append_iff :
    (settings.withCountries codes).countryTable.codes ⊆
        (settings.withCountries (codes ++ more)).countryTable.codes ↔
      HasPiece codes ∨ ¬ HasPiece more ∨
        Country.defaultCodes ⊆ (settings.withCountries more).countryTable.codes := by
  simp only [List.subset_def, mem_codes_withCountries, hasPiece_append, namesCode_append]
  by_cases hcodes : HasPiece codes
  · refine iff_of_true ?_ (.inl hcodes)
    intro code hcode
    exact .inl (.inl (hcode.resolve_right fun hnone ↦ hnone.1 hcodes))
  by_cases hmore : HasPiece more
  · have hnames (code : String) : ¬ NamesCode codes code := fun h ↦ hcodes h.hasPiece
    simp [hcodes, hmore, hnames]
  · simp only [hcodes, hmore, or_self, not_false_eq_true, true_and, or_true, true_or, iff_true]
    intro code hcode
    exact hcode.imp_left .inl

theorem codes_subset_append (settings : Settings) (h : HasPiece codes) (more : List String) :
    (settings.withCountries codes).countryTable.codes ⊆
      (settings.withCountries (codes ++ more)).countryTable.codes :=
  codes_subset_append_iff.mpr (.inl h)

end Settings

namespace Inquiry

open Settings (HasPiece)

/-- A report under a longer list is that under the shorter one, unless that refuses the number for
an unsupported country. -/
theorem report_withCountries (inquiry : Inquiry) (plan : NumberingPlan) (settings : Settings)
    {codes : List String} (h : HasPiece codes) (more : List String) :
    inquiry.report plan (settings.withCountries (codes ++ more)) =
        inquiry.report plan (settings.withCountries codes) ∨
      (inquiry.report plan (settings.withCountries codes)).verdict =
        .ineligible .unsupportedCountry := by
  have hrun (codes : List String) : inquiry.run plan (settings.withCountries codes) =
      ((inquiry.checker plan settings).withTable
        (settings.withCountries codes).countryTable).evaluate (some inquiry.number)
          (some (inquiry.homeCode settings)) (some (inquiry.roamingCode settings)) := rfl
  rcases (inquiry.checker plan settings).evaluate_withTable (some inquiry.number)
    (some (inquiry.homeCode settings)) (some (inquiry.roamingCode settings))
    (settings.codes_subset_append h more) with hsame | hrefused
  · left
    rw [← hrun, ← hrun] at hsame
    show Report.mk _ _ _ _ = Report.mk _ _ _ _
    rw [hsame]
    rfl
  · right
    rw [verdict_report_iff, hrun]
    exact hrefused

/-- Widening the table of supported countries revokes nothing. A check under a wider table is the
same run, unless the narrow table refuses the number for an unsupported country, and only then can
the wider one refuse it for that reason. In settings the table of a list widens with the list
exactly when the list has a piece that is not blank, or the addition has none, or the addition
covers the default countries; so reports keep to the same law for a list with such a piece. -/
theorem widening_revokes_nothing {ε : Type} (checker : Eligibility.Checker ε)
    (number home roaming : Option String) (inquiry : Inquiry) (plan : NumberingPlan)
    (settings : Settings) :
    (∀ table wider : Country.Table, table.codes ⊆ wider.codes →
      let before := (checker.withTable table).evaluate number home roaming
      let after := (checker.withTable wider).evaluate number home roaming
      (before.outcome ≠ .ok (.ineligible .unsupportedCountry) → after = before) ∧
        (after.outcome = .ok (.ineligible .unsupportedCountry) →
          before.outcome = .ok (.ineligible .unsupportedCountry))) ∧
    ∀ codes more : List String,
      ((settings.withCountries codes).countryTable.codes ⊆
          (settings.withCountries (codes ++ more)).countryTable.codes ↔
        HasPiece codes ∨ ¬ HasPiece more ∨
          Country.defaultCodes ⊆ (settings.withCountries more).countryTable.codes) ∧
      (HasPiece codes →
        let before := inquiry.report plan (settings.withCountries codes)
        let after := inquiry.report plan (settings.withCountries (codes ++ more))
        (before.verdict ≠ .ineligible .unsupportedCountry → after = before) ∧
          (after.verdict = .ineligible .unsupportedCountry →
            before.verdict = .ineligible .unsupportedCountry)) := by
  refine ⟨fun table wider hsubset ↦ ?_, fun codes more ↦
    ⟨Settings.codes_subset_append_iff, fun hpiece ↦ ?_⟩⟩
  · rcases checker.evaluate_withTable number home roaming hsubset with hsame | hrefused
    · exact ⟨fun _ ↦ hsame, fun hafter ↦ hsame ▸ hafter⟩
    · exact ⟨fun hother ↦ absurd hrefused hother, fun _ ↦ hrefused⟩
  · rcases inquiry.report_withCountries plan settings hpiece more with hsame | hrefused
    · exact ⟨fun _ ↦ hsame, fun hafter ↦ hsame ▸ hafter⟩
    · exact ⟨fun hother ↦ absurd hrefused hother, fun _ ↦ hrefused⟩

end Inquiry

end AssistedDialing
