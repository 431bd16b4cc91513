import AssistedDialing.Proofs.CommaLists
import Mathlib.Data.List.DropRight

/-!
# Stripped texts

A text is stripped when it neither begins nor ends with a blank. Stripping yields such texts, and
leaves alone no others.
-/

namespace AssistedDialing.Text

/-- `IsStripped text` says that a text neither begins nor ends with a blank. -/
structure IsStripped (text : String) : Prop where
  head : ∀ c ∈ text.toList.head?, isBlank c = false
  last : ∀ c ∈ text.toList.getLast?, isBlank c = false

theorem isStripped_strip (text : String) : IsStripped (strip text) where
  head := by
    intro c hc
    rw [toList_strip, Option.mem_def, List.head?_eq_some_iff] at hc
    obtain ⟨rest, htrim⟩ := hc
    -- trimming the end leaves a prefix, so the text begins as it does once its start is trimmed
    obtain ⟨trail, htrail⟩ : trim text.toList <+: trimStart text.toList :=
      List.rdropWhile_prefix isBlank (trimStart text.toList)
    have hstart := List.head?_dropWhile_not isBlank text.toList
    rw [show text.toList.dropWhile isBlank = trimStart text.toList from rfl, ← htrail, htrim,
      List.cons_append, List.head?_cons] at hstart
    exact hstart
  last := by
    intro c hc
    rw [toList_strip, Option.mem_def] at hc
    have hne : trim text.toList ≠ [] := by
      intro hnil
      rw [hnil] at hc
      cases hc
    rw [List.getLast?_eq_some_getLast hne, Option.some.injEq] at hc
    rw [← hc]
    exact Bool.eq_false_iff.mpr (List.rdropWhile_last_not isBlank (trimStart text.toList) hne)

/-- Stripping leaves a text alone exactly when no blank is at its ends. -/
theorem strip_eq_self_iff {text : String} : strip text = text ↔ IsStripped text := by
  constructor
  · intro h
    rw [← h]
    exact isStripped_strip text
  · rintro ⟨hhead, hlast⟩
    have hstart : trimStart text.toList = text.toList := by
      cases htext : text.toList with
      | nil => rfl
      | cons c cs =>
          have hc : ¬ isBlank c = true := by simpa using hhead c (by rw [htext]; rfl)
          exact List.dropWhile_cons_of_neg hc
    have hend : trimEnd text.toList = text.toList := by
      apply List.rdropWhile_eq_self_iff.mpr
      intro hne
      have hc := hlast _ (List.getLast?_eq_some_getLast hne)
      exact Bool.eq_false_iff.mp hc
    rw [strip, trim, hstart, hend, String.ofList_toList]

end AssistedDialing.Text
