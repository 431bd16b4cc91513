import AssistedDialing.Dialled.Parse
import AssistedDialing.Proofs.DigitValue
import AssistedDialing.Proofs.PlanFacts

/-!
# The digits that are dialled

Whatever is written, the digits that are dialled for it are digits of ASCII (`normalize_isDigits`).
The stages of reading that take prefixes off keep them so, up to the national number.
-/

namespace AssistedDialing.Dialled

open Text

/-- `IsDigits cs` says that `cs` is digits of ASCII. -/
def IsDigits (cs : List Char) : Prop :=
  ∀ c ∈ cs, isAsciiDigit c = true

namespace IsDigits

variable {cs ds : List Char}

theorem of_subset (h : IsDigits cs) (hsubset : ds ⊆ cs) : IsDigits ds :=
  fun c hc ↦ h c (hsubset hc)

theorem append (hcs : IsDigits cs) (hds : IsDigits ds) : IsDigits (cs ++ ds) :=
  List.forall_mem_append.mpr ⟨hcs, hds⟩

theorem all_eq_true (h : IsDigits cs) : cs.all isAsciiDigit = true :=
  List.all_eq_true.mpr h

end IsDigits

theorem isAsciiDigit_keyOf (c : Char) : isAsciiDigit (keyOf c) = true := by
  unfold keyOf
  repeat' split
  all_goals rfl

theorem isAsciiDigit_of_key? {c key : Char} (h : key? c = some key) : isAsciiDigit key = true := by
  unfold key? at h
  split at h
  · next u hu =>
    split at h
    · next hdigit =>
      cases h
      exact hdigit
    · split at h
      · cases h
        exact isAsciiDigit_keyOf u
      · cases h
  · cases h

/-- The digits that are dialled for a text are digits of ASCII, whatever stands in it. -/
theorem normalize_isDigits (cs : List Char) : IsDigits (normalize cs) := by
  intro digit hdigit
  unfold normalize at hdigit
  split at hdigit
  · obtain ⟨c, -, hkey⟩ := List.mem_filterMap.mp hdigit
    exact isAsciiDigit_of_key? hkey
  · obtain ⟨c, -, hvalue⟩ := List.mem_filterMap.mp hdigit
    obtain ⟨value, hlt, rfl⟩ := Option.map_eq_some_iff.mp hvalue
    exact isAsciiDigit_digitChar (digitValue?_lt hlt)

section Prefixes

variable {region : Region} {digits : List Char}

/-- A national prefix is taken off, or replaced by digits. -/
theorem stripNationalPrefix_isDigits (hregion : region.WellFormed) (h : IsDigits digits) :
    IsDigits (stripNationalPrefix region digits) := by
  unfold stripNationalPrefix
  split
  · exact h
  · next found hfound =>
    obtain ⟨pattern, -, hmatch⟩ := Option.bind_eq_some_iff.mp hfound
    have hwithin := Pattern.first?_isWithin hmatch
    have hrest : IsDigits found.rest := h.of_subset hwithin.rest_suffix.subset
    extract_lets shortened fits
    -- what the rule writes comes before the named part of the match, and both before the rest
    have hshortened : IsDigits shortened := by
      dsimp only [shortened]
      split
      · next rule hrule =>
        split
        · next part hpart =>
          have hrule : IsDigits rule.digits.toList :=
            List.all_eq_true.mp (hregion.isAsciiDigit_rule rule hrule)
          exact (hrule.append (h.of_subset (hwithin.group?_subset hpart))).append hrest
        · exact hrest
      · exact hrest
    split <;> assumption

theorem withoutNationalPrefix_isDigits {owner : Option Region}
    (howner : ∀ region ∈ owner, region.WellFormed) (h : IsDigits digits) :
    IsDigits (withoutNationalPrefix owner digits) := by
  unfold withoutNationalPrefix
  split
  · exact h
  · next region =>
    have hnational := stripNationalPrefix_isDigits (howner region rfl) h
    dsimp only
    split <;> assumption

theorem stripInternationalPrefix?_isDigits {home : Option Region} {rest : List Char}
    (h : IsDigits digits) (hrest : stripInternationalPrefix? home digits = some rest) :
    IsDigits rest := by
  unfold stripInternationalPrefix? at hrest
  split at hrest
  · next found hfound =>
    obtain ⟨region, -, hregion⟩ := Option.bind_eq_some_iff.mp hfound
    obtain ⟨pattern, -, hmatch⟩ := Option.bind_eq_some_iff.mp hregion
    split at hrest
    · cases hrest
    · cases hrest
      exact h.of_subset (Pattern.first?_isWithin hmatch).rest_suffix.subset
  · cases hrest

theorem codeWithoutPlus?_isDigits {national : List Char} (hregion : region.WellFormed)
    (h : IsDigits digits) (hnational : codeWithoutPlus? region digits = some national) :
    IsDigits national := by
  unfold codeWithoutPlus? at hnational
  dsimp only at hnational
  split at hnational
  · split at hnational
    · cases hnational
      exact stripNationalPrefix_isDigits hregion (h.of_subset (List.drop_subset _ _))
    · cases hnational
  · cases hnational

end Prefixes

end AssistedDialing.Dialled
