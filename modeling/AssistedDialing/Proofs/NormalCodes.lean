import AssistedDialing.Proofs.CountryLists
import AssistedDialing.Proofs.Stripping

/-!
# Codes in normal form

Normalising is a projection: its results are the codes in upper case without blanks around them, and
it leaves these alone. `normalize_projects` also says what it does not look at, the case of a code
and the blanks around it, and that it empties blank codes only. So the detector of the location, the
table of countries, the checker and the report see the same code, at whichever step it is normalised
or changed to upper case.
-/

namespace AssistedDialing

open Text

namespace Text

theorem IgnoresBlanks.append_eq {f : String → String} (hf : IgnoresBlanks f) {lead trail : String}
    (hlead : IsBlankText lead) (htrail : IsBlankText trail) (text : String) :
    f (lead ++ text ++ trail) = f text := by
  have hchars : lead ++ text ++ trail =
      String.ofList (lead.toList ++ (text.toList ++ trail.toList)) := by
    apply String.ext
    simp
  rw [hchars, hf lead.toList text.toList trail.toList hlead htrail, String.ofList_toList]

/-- Stripping commutes with upper-casing. -/
theorem strip_upper (text : String) : strip (upper text) = upper (strip text) := by
  apply String.ext
  rw [toList_strip, toList_upper, toList_upper, toList_strip, trim_upperChars]

end Text

namespace Country

/-- The codes that normalising leaves alone are in upper case and stripped. -/
theorem normalizeText_eq_self_iff {code : String} :
    normalizeText code = code ↔ upper code = code ∧ IsStripped code := by
  constructor
  · intro h
    constructor
    · rw [← h]
      exact upper_upper _
    · rw [← strip_eq_self_iff, ← h, normalizeText, strip_upper, ignoresBlanks_strip.strip_eq]
  · rintro ⟨hupper, hstripped⟩
    rw [normalizeText, strip_eq_self_iff.mpr hstripped, hupper]

/-- Normalising is a projection onto the codes in upper case without blanks around them. It does not
depend on the case of a code nor on the blanks around it, and yields the empty code for blank ones
only. -/
theorem normalize_projects (code lead trail : String) :
    normalize (some (normalize (some code))) = normalize (some code) ∧
      upper (normalize (some code)) = normalize (some code) ∧
      normalize (some (upper code)) = normalize (some code) ∧
      (IsBlankText lead → IsBlankText trail →
        normalize (some (lead ++ code ++ trail)) = normalize (some code)) ∧
      (normalize (some code) = "" ↔ IsBlankText code) ∧
      (normalize (some code) = code ↔ upper code = code ∧ IsStripped code) := by
  have hnormal : normalizeText (normalizeText code) = normalizeText code :=
    normalizeText_normalizeText code
  refine ⟨hnormal, ?_, normalizeText_upper code, ?_, normalizeText_eq_empty_iff,
    normalizeText_eq_self_iff⟩
  · exact (normalizeText_eq_self_iff.mp hnormal).1
  · intro hlead htrail
    exact ignoresBlanks_normalizeText.append_eq hlead htrail code

/-- Sharp s between blanks, and the same with an em space, an information separator and a line feed
around it. -/
theorem normalize_sharpS :
    IsBlankText "\u2003\u001c" ∧ IsBlankText "\n" ∧
      normalize (some ("\u2003\u001c" ++ " \u00df\t" ++ "\n")) = normalize (some " \u00df\t") ∧
      normalize (some " \u00df\t") = "SS" := by
  have hlead : IsBlankText "\u2003\u001c" := strip_eq_empty_iff.mp (by decide)
  have htrail : IsBlankText "\n" := strip_eq_empty_iff.mp (by decide)
  exact ⟨hlead, htrail, (normalize_projects " \u00df\t" "\u2003\u001c" "\n").2.2.2.1 hlead htrail,
    by decide⟩

end Country

end AssistedDialing
