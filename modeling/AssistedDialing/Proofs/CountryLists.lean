import AssistedDialing.Proofs.ConfiguredLists
import Mathlib.Data.List.Sort

/-!
# Tables from lists of countries

The table of supported countries is made from the pieces of a list between its commas. If at least
one piece is not blank, its codes are the well-formed ones among the normalised pieces
(`mem_codes_countryTable`), and there may be none; if all are blank, it is the default table. A
table with a code is read back from its codes with commas between them (`ofCsv_joinCommas_codes`).
-/

namespace AssistedDialing

open Text

namespace Text

/-- `IsBlankText text` says that a text consists of blanks. -/
def IsBlankText (text : String) : Prop :=
  ∀ c ∈ text.toList, isBlank c = true

/-- Nothing is left of a text by stripping it exactly when it consists of blanks. -/
theorem strip_eq_empty_iff {text : String} : strip text = "" ↔ IsBlankText text := by
  constructor
  · intro h c hc
    have htrim : trim text.toList = [] := by
      rw [← toList_strip, h]
      rfl
    rw [← padding_append text.toList, htrim, List.nil_append, List.mem_append] at hc
    exact isBlank_of_mem_padding hc
  · intro h
    have hblank := ignoresBlanks_strip text.toList [] [] h (by simp)
    rw [List.nil_append, List.append_nil, String.ofList_toList] at hblank
    exact hblank

theorem mem_kept {f : String → String} {parts : List String} {result : String} :
    result ∈ kept f parts ↔ result ≠ "" ∧ ∃ part ∈ parts, f part = result := by
  rw [kept, List.mem_filter, List.mem_map, decide_eq_true_eq, and_comm]

end Text

namespace Country

theorem normalizeText_eq_empty_iff {text : String} :
    normalizeText text = "" ↔ IsBlankText text := by
  rw [normalizeText, upper_eq_empty_iff, strip_eq_empty_iff]

/-- A normalised code is its own normalised form. -/
theorem normalizeText_normalizeText (code : String) :
    normalizeText (normalizeText code) = normalizeText code := by
  show normalizeText (upper (strip code)) = _
  rw [normalizeText_upper, ignoresBlanks_normalizeText.strip_eq]

/-- Parts name no country when they are all blank. -/
theorem kept_normalizeText_eq_nil_iff {parts : List String} :
    kept normalizeText parts = [] ↔ ∀ part ∈ parts, IsBlankText part := by
  rw [kept, List.filter_eq_nil_iff, List.forall_mem_map]
  refine forall₂_congr fun part _ ↦ ?_
  rw [decide_eq_true_eq, not_not, normalizeText_eq_empty_iff]

/-- A code of two capital letters has no comma. -/
theorem pieces_of_isWellFormed {code : String} (h : isWellFormed code = true) :
    pieces code = [code] := by
  obtain ⟨a, b, hcode, ha, hb⟩ := isWellFormed_iff.mp h
  have hcomma : ',' ∉ code.toList := by
    intro hmem
    have hcapital : isCapital ',' = true := by
      rw [hcode, List.mem_cons, List.mem_singleton] at hmem
      rcases hmem with rfl | rfl
      · exact ha
      · exact hb
    exact absurd hcapital (by decide)
  have hone := pieces_of_not_mem hcomma
  rwa [String.ofList_toList] at hone

namespace Table

/-! ## Tables of a text -/

variable {entries : List (Option String)} {text : String}

/-- A text that names no country is replaced by the fallback. -/
theorem ofCsv_of_named_eq_nil (h : named text = []) (fallback : List (Option String)) :
    ofCsv (some text) fallback = ofEntries fallback := by
  have hempty : csvEntries (some text) = [] := by
    rw [← List.map_eq_nil_iff (f := normalize), map_normalize_csvEntries, h]
  rw [ofCsv, entriesOrFallback, hempty]
  rfl

/-- The table of any other text has the countries that the text names, and no fallback. -/
theorem ofCsv_of_named_ne_nil (h : named text ≠ []) (fallback : List (Option String)) :
    ofCsv (some text) fallback = ofEntries ((named text).map some) := by
  have hentries : (csvEntries (some text)).isEmpty = false := by
    rw [← List.isEmpty_map (f := normalize), map_normalize_csvEntries]
    exact List.isEmpty_eq_false_iff.mpr h
  rw [ofCsv, entriesOrFallback]
  simp only [hentries, Bool.false_eq_true, if_false]
  apply ofEntries_congr
  rw [map_normalize_csvEntries, List.map_map]
  -- what a text names is normalised
  refine (List.map_id (named text)).symm.trans (List.map_congr_left fun code hcode ↦ ?_)
  obtain ⟨-, piece, -, rfl⟩ := mem_kept.mp hcode
  exact (normalizeText_normalizeText piece).symm

theorem pairwise_codes_ofCsv (value : Option String) (fallback : List (Option String)) :
    (ofCsv value fallback).codes.Pairwise (· < ·) :=
  pairwise_codes_ofEntries _

theorem mem_codes_ofCsv (h : named text ≠ []) (fallback : List (Option String)) {code : String} :
    code ∈ (ofCsv (some text) fallback).codes ↔ code ∈ named text ∧ isWellFormed code = true := by
  rw [ofCsv_of_named_ne_nil h, mem_codes_ofEntries]
  have hnormal : ∀ named' ∈ named text, normalize (some named') = named' := by
    intro named' hmem
    obtain ⟨-, piece, -, rfl⟩ := mem_kept.mp hmem
    exact normalizeText_normalizeText piece
  constructor
  · rintro ⟨entry, hentry, rfl, hformed⟩
    obtain ⟨named', hmem, rfl⟩ := List.mem_map.mp hentry
    rw [hnormal named' hmem] at hformed ⊢
    exact ⟨hmem, hformed⟩
  · rintro ⟨hmem, hformed⟩
    refine ⟨some code, List.mem_map_of_mem hmem, hnormal code hmem, ?_⟩
    rwa [hnormal code hmem]

/-! ## Codes with commas between them -/

theorem normalizeText_of_mem_codes {code : String} (h : code ∈ (ofEntries entries).codes) :
    normalizeText code = code := by
  obtain ⟨entry, -, rfl, -⟩ := mem_codes_ofEntries.mp h
  exact normalizeText_normalizeText _

/-- The codes of a table, with commas between them, name themselves. -/
theorem named_joinCommas_codes (entries : List (Option String)) :
    named (joinCommas (ofEntries entries).codes) = (ofEntries entries).codes := by
  have hpieces : (ofEntries entries).codes.flatMap pieces = (ofEntries entries).codes :=
    flatMap_pieces_eq_self fun code hcode ↦
      pieces_of_isWellFormed (isWellFormed_of_mem_codes hcode)
  rw [named, kept_pieces_joinCommas rfl, hpieces, kept,
    List.map_congr_left fun code hcode ↦ normalizeText_of_mem_codes hcode, List.map_id',
    List.filter_eq_self]
  intro code hcode
  rw [decide_eq_true_eq]
  rintro rfl
  exact absurd (isWellFormed_of_mem_codes hcode) (by simp)

/-- A table with a code is read back from its codes with commas between them, whatever the fallback
is. -/
theorem ofCsv_joinCommas_codes (h : (ofEntries entries).codes ≠ [])
    (fallback : List (Option String)) :
    ofCsv (some (joinCommas (ofEntries entries).codes)) fallback = ofEntries entries := by
  have hnamed := named_joinCommas_codes entries
  have hcodes : (ofCsv (some (joinCommas (ofEntries entries).codes)) fallback).codes =
      (ofEntries entries).codes := by
    refine (pairwise_codes_ofCsv _ fallback).eq_of_mem_iff (pairwise_codes_ofEntries entries)
      fun code ↦ ?_
    rw [mem_codes_ofCsv (hnamed.symm ▸ h), hnamed]
    exact and_iff_left_of_imp isWellFormed_of_mem_codes
  exact congrArg Table.mk hcodes

end Table

end Country

/-! ## Tables of settings -/

namespace Settings

variable {settings : Settings}

theorem named_countryList_eq_nil_iff :
    Country.named settings.countryList = [] ↔
      ∀ piece ∈ settings.supportedCountries.pieces, IsBlankText piece := by
  rw [named_countryList, Country.kept_normalizeText_eq_nil_iff]

theorem codes_countryTable_of_blank
    (h : ∀ piece ∈ settings.supportedCountries.pieces, IsBlankText piece) :
    settings.countryTable.codes = Country.defaultCodes := by
  rw [countryTable, Country.Table.ofCsv_of_named_eq_nil (named_countryList_eq_nil_iff.mpr h)]
  decide

/-- The codes of the table are the well-formed ones among the normalised pieces of the list, as soon
as one piece is not blank. -/
theorem mem_codes_countryTable
    (h : ∃ piece ∈ settings.supportedCountries.pieces, ¬ IsBlankText piece) {code : String} :
    code ∈ settings.countryTable.codes ↔
      ∃ piece ∈ settings.supportedCountries.pieces,
        Country.normalizeText piece = code ∧ Country.isWellFormed code = true := by
  have hnamed : Country.named settings.countryList ≠ [] := by
    rw [ne_eq, named_countryList_eq_nil_iff]
    simpa using h
  rw [countryTable, Country.Table.mem_codes_ofCsv hnamed, named_countryList, mem_kept]
  constructor
  · rintro ⟨⟨-, piece, hpiece, hcode⟩, hformed⟩
    exact ⟨piece, hpiece, hcode, hformed⟩
  · rintro ⟨piece, hpiece, hcode, hformed⟩
    refine ⟨⟨?_, piece, hpiece, hcode⟩, hformed⟩
    rintro rfl
    exact absurd hformed (by simp)

/-- A list that is a text gives the table of the text. -/
theorem countryTable_of_csv {text : String} (h : settings.supportedCountries = .csv text) :
    settings.countryTable = .ofCsv (some text) Country.Table.defaultEntries := by
  apply Country.Table.ofCsv_congr
  rw [named_countryList, h]
  rfl

end Settings

end AssistedDialing
