import AssistedDialing.NumberingPlan.World
import AssistedDialing.Text.Digit

/-!
# Facts about numbering plans

What a pattern matches lies within the text (`Pattern.run_isWithin`), so taking a number apart by
patterns keeps its digits. `NumberingPlan.WellFormed` is what else the reading of numbers relies on:
calling codes are positive, and prefixes are replaced by digits.
-/

namespace AssistedDialing

namespace Pattern

variable {cs : List Char}

/-- `found.IsWithin cs` says that a match takes the text `cs` apart: it leaves an end of the text,
and its named parts have no other characters. -/
structure Match.IsWithin (found : Match) (cs : List Char) : Prop where
  rest_suffix : found.rest <:+ cs
  part_subset : ∀ part ∈ found.groups, part.2 ⊆ cs

/-- A match of nothing is within every text. -/
theorem Match.isWithin_nothing : Match.IsWithin ⟨cs, []⟩ cs where
  rest_suffix := List.suffix_rfl
  part_subset := by simp

/-- A match of what another match leaves goes on with that match. -/
theorem Match.IsWithin.append {first second : Match} (hfirst : first.IsWithin cs)
    (hsecond : second.IsWithin first.rest) :
    Match.IsWithin ⟨second.rest, first.groups ++ second.groups⟩ cs where
  rest_suffix := hsecond.rest_suffix.trans hfirst.rest_suffix
  part_subset := by
    intro part hpart
    rcases List.mem_append.mp hpart with hmem | hmem
    · exact hfirst.part_subset part hmem
    · exact List.Subset.trans (hsecond.part_subset part hmem) hfirst.rest_suffix.subset

theorem repeatUpTo_isWithin {step : List Char → List Match}
    (hstep : ∀ cs, ∀ found ∈ step cs, found.IsWithin cs) (count : Nat) :
    ∀ found ∈ repeatUpTo step count cs, found.IsWithin cs := by
  intro found hfound
  induction count generalizing cs found with
  | zero =>
      rw [repeatUpTo, List.mem_singleton] at hfound
      exact hfound ▸ Match.isWithin_nothing
  | succ count ih =>
      rw [repeatUpTo, List.mem_append, List.mem_flatMap, List.mem_singleton] at hfound
      rcases hfound with ⟨first, hfirst, hmore⟩ | rfl
      · obtain ⟨second, hsecond, rfl⟩ := List.mem_map.mp hmore
        exact (hstep cs first hfirst).append (ih second hsecond)
      · exact Match.isWithin_nothing

/-- What a pattern matches lies within the text. -/
theorem run_isWithin (pattern : Pattern) (cs : List Char) :
    ∀ found ∈ pattern.run cs, found.IsWithin cs := by
  intro found hfound
  -- what is left by one part of a pattern is where the next part starts
  induction pattern generalizing cs found with
  | empty =>
      rw [run, List.mem_singleton] at hfound
      exact hfound ▸ Match.isWithin_nothing
  | oneOf choices =>
      cases cs with
      | nil => simp [run] at hfound
      | cons c cs =>
          rw [run, List.mem_ite_nil_right, List.mem_singleton] at hfound
          obtain ⟨-, rfl⟩ := hfound
          exact ⟨List.suffix_cons c cs, by simp⟩
  | seq first second ihFirst ihSecond =>
      obtain ⟨left, hleft, hmore⟩ := List.mem_flatMap.mp hfound
      obtain ⟨right, hright, rfl⟩ := List.mem_map.mp hmore
      exact (ihFirst cs left hleft).append (ihSecond left.rest right hright)
  | alt first second ihFirst ihSecond =>
      rcases List.mem_append.mp hfound with hmem | hmem
      · exact ihFirst cs found hmem
      · exact ihSecond cs found hmem
  | upTo count body ih => exact repeatUpTo_isWithin ih count found hfound
  | group index body ih =>
      obtain ⟨inner, hinner, rfl⟩ := List.mem_map.mp hfound
      have hwithin := ih cs inner hinner
      refine ⟨hwithin.rest_suffix, fun part hpart ↦ ?_⟩
      rcases List.mem_append.mp hpart with hmem | hmem
      · exact hwithin.part_subset part hmem
      · rw [List.mem_singleton.mp hmem]
        exact List.take_subset _ _
  | atEnd =>
      rw [run, List.mem_ite_nil_right, List.mem_singleton] at hfound
      exact hfound.2 ▸ Match.isWithin_nothing

theorem first?_isWithin {pattern : Pattern} {found : Match} (h : pattern.first? cs = some found) :
    found.IsWithin cs :=
  pattern.run_isWithin cs found (List.mem_of_head? h)

/-- A named part of a match has only characters of the text. -/
theorem Match.IsWithin.group?_subset {found : Match} {index : Nat} {part : List Char}
    (h : found.IsWithin cs) (hpart : found.group? index = some part) : part ⊆ cs := by
  obtain ⟨before, after, hgroups, -⟩ := List.lookup_eq_some_iff.mp hpart
  exact h.part_subset (index, part) (by simp [hgroups])

end Pattern

/-- `region.WellFormed` says that a region has a positive calling code and that its prefix rule, if
it has one, writes ASCII digits. -/
structure Region.WellFormed (region : Region) : Prop where
  callingCode_pos : 0 < region.callingCode
  isAsciiDigit_rule : ∀ rule ∈ region.prefixRule, rule.digits.toList.all Text.isAsciiDigit = true

namespace NumberingPlan

/-- `plan.WellFormed` says that all regions of a plan are well-formed. -/
def WellFormed (plan : NumberingPlan) : Prop :=
  ∀ region ∈ plan.regions, region.WellFormed

theorem mem_of_region? {plan : NumberingPlan} {id : String} {region : Region}
    (h : plan.region? id = some region) : region ∈ plan.regions :=
  List.mem_of_find?_eq_some h

theorem mem_of_regionsOf {plan : NumberingPlan} {code : Int} {region : Region}
    (h : (plan.regionsOf code).head? = some region) : region ∈ plan.regions :=
  (List.mem_filter.mp (List.mem_of_head? h)).1

/-- The numbering plan in use is well-formed. -/
theorem current_wellFormed : current.WellFormed := by
  have hall : current.regions.all (fun region ↦ decide (0 < region.callingCode) &&
      region.prefixRule.all fun rule ↦ rule.digits.toList.all Text.isAsciiDigit) = true := by
    decide
  intro region hregion
  have h := List.all_eq_true.mp hall region hregion
  simp only [Bool.and_eq_true, decide_eq_true_eq, Option.all_eq_true] at h
  exact ⟨h.1, h.2⟩

end NumberingPlan

end AssistedDialing
