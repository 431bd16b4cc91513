import AssistedDialing.Settings.Validation

/-!
# One setting alone

What validation makes of a configuration that gives a single setting: it accepts the setting where
the check of its value does, and all others have their defaults. The check of a list accepts it
exactly when it accepts every item.
-/

namespace AssistedDialing.Settings

/-- `Inputs.only field input` gives one setting. -/
def Inputs.only (field : Field) (input : Input) : Inputs :=
  fun other ↦ if other = field then some input else none

variable {α β : Type} {check : Input → Checked α}

/-- A list is accepted with what is accepted for its items. -/
theorem checkItemsFrom_map {items : List β} {input : β → Input} {value : β → α}
    (h : ∀ item ∈ items, check (input item) = .ok (value item)) (index : Nat) :
    checkItemsFrom check index (items.map input) = .ok (items.map value) := by
  induction items generalizing index with
  | nil => rfl
  | cons item items ih =>
      have hrest := ih (fun other hother ↦ h other (List.mem_cons_of_mem _ hother)) (index + 1)
      rw [List.map_cons, checkItemsFrom, h item List.mem_cons_self, hrest]
      rfl

/-- A list is refused when one of its items is. -/
theorem checkItemsFrom_of_refused {inputs : List Input} {input : Input} {problems : List Problem}
    (hmem : input ∈ inputs) (h : check input = .error problems) (index : Nat) :
    ∃ found, checkItemsFrom check index inputs = .error found := by
  induction inputs generalizing index with
  | nil => cases hmem
  | cons first inputs ih =>
      rw [checkItemsFrom]
      obtain rfl | hmem := List.mem_cons.mp hmem
      · rw [h]
        exact ⟨_, rfl⟩
      · obtain ⟨found, hfound⟩ := ih hmem (index + 1)
        rw [hfound]
        cases check first <;> exact ⟨_, rfl⟩

/-- The texts of a list of countries are accepted. -/
theorem checkItemList_map {name : String} {items : List β} {input : β → Input} {value : β → α}
    (h : ∀ item ∈ items, check (input item) = .ok (value item)) :
    checkItemList name check (.list (items.map input)) = .ok (.list (items.map value)) := by
  rw [checkItemList, checkList, checkItemsFrom_map h]
  rfl

theorem checkItemList_of_refused {name : String} {inputs : List Input} {input : Input}
    {problems : List Problem} (hmem : input ∈ inputs) (h : check input = .error problems) :
    ∃ found, checkItemList name check (.list inputs) = .error found := by
  obtain ⟨found, hfound⟩ := checkItemsFrom_of_refused hmem h 0
  rw [checkItemList, checkList, hfound]
  exact ⟨_, rfl⟩

variable {input : Input}

/-- The check of supported countries. -/
abbrev checkCountries : Input → Checked (ItemList String) :=
  checkItemList "str" checkText

/-- The check of further emergency numbers. -/
abbrev checkNumbers : Input → Checked (ItemList EmergencyItem) :=
  checkItemList "union[str,int]" checkEmergencyItem

theorem validate_only_supportedCountries {list : ItemList String}
    (h : checkCountries input = .ok list) :
    validate (.only .supportedCountries input) = .ok { supportedCountries := list } := by
  have hfield : checkField (.only .supportedCountries input) .supportedCountries checkCountries
      defaults.supportedCountries = .ok list := by
    show (checkCountries input).within _ = _
    rw [h]
    rfl
  unfold validate
  simp only [hfield]
  rfl

theorem validate_only_supportedCountries_refused {problems : List Problem}
    (h : checkCountries input = .error problems) :
    ∃ found, validate (.only .supportedCountries input) = .error found := by
  have hfield : checkField (.only .supportedCountries input) .supportedCountries checkCountries
      defaults.supportedCountries =
        .error (problems.map (Problem.within Field.supportedCountries.name)) := by
    show (checkCountries input).within _ = _
    rw [h]
    rfl
  unfold validate
  simp only [hfield]
  exact ⟨_, rfl⟩

theorem validate_only_extraEmergencyNumbers {list : ItemList EmergencyItem}
    (h : checkNumbers input = .ok list) :
    validate (.only .extraEmergencyNumbers input) = .ok { extraEmergencyNumbers := list } := by
  have hfield : checkField (.only .extraEmergencyNumbers input) .extraEmergencyNumbers checkNumbers
      defaults.extraEmergencyNumbers = .ok list := by
    show (checkNumbers input).within _ = _
    rw [h]
    rfl
  unfold validate
  simp only [hfield]
  rfl

end AssistedDialing.Settings
