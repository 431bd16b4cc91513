import AssistedDialing.NumberingPlan.World
import AssistedDialing.Proofs.CountryTable
import AssistedDialing.Proofs.OneSetting

/-!
# Lists and comma-separated texts

A list setting can be given item by item or as a comma-separated text. For the supported countries
the two are the same in any case, since the items of a list are cut at their commas as well. For the
emergency numbers an item of a list is one number, in which commas are separators like any others;
so a list agrees with its joined text as long as no item names several numbers, and
`joined_agrees_with_list` says when it agrees in general.
-/

namespace AssistedDialing

open Text

/-! ## Countries in a text -/

namespace Country

/-- `named text` is the normalised pieces of a text that are not blank. -/
def named (text : String) : List String :=
  kept normalizeText (pieces text)

namespace Table

/-- The entries that are read from a text are its normalised pieces that are not blank. -/
theorem map_normalize_csvEntries (text : String) :
    (csvEntries (some text)).map normalize = named text := by
  have hblank : ((fun part : String ↦ decide (part ≠ "")) ∘ normalizeText) =
      fun piece ↦ decide (strip piece ≠ "") := by
    funext piece
    rw [Function.comp_apply, normalizeText, decide_eq_decide, ne_eq, ne_eq, upper_eq_empty_iff]
  have hsome : normalize ∘ some = normalizeText := rfl
  rw [csvEntries, Option.getD_some, List.map_map, hsome, named, kept, List.filter_map, hblank]

/-- The table of a text depends on the countries that the text names only. -/
theorem ofCsv_congr {text other : String} (h : named text = named other)
    (fallback : List (Option String)) :
    ofCsv (some text) fallback = ofCsv (some other) fallback := by
  have hentries : (csvEntries (some text)).map normalize =
      (csvEntries (some other)).map normalize := by
    rw [map_normalize_csvEntries, map_normalize_csvEntries, h]
  have hempty : (csvEntries (some text)).isEmpty = (csvEntries (some other)).isEmpty := by
    rw [← List.isEmpty_map, hentries, List.isEmpty_map]
  rw [ofCsv, ofCsv, entriesOrFallback, entriesOrFallback]
  simp only [hempty]
  split
  · rfl
  · exact ofEntries_congr hentries

end Table

end Country

/-! ## Emergency numbers in a text -/

namespace Emergency

/-- No blank is dialled. -/
theorem blankCodes_not_dialled :
    blankCodes.all (fun code ↦ !isDialled (Char.ofNat code)) = true := by
  decide

theorem not_isDialled_of_isBlank {c : Char} (h : isBlank c = true) : isDialled c = false := by
  have hcode := List.all_eq_true.mp blankCodes_not_dialled c.toNat (mem_blankCodes h)
  rwa [Char.ofNat_toNat, Bool.not_eq_true'] at hcode

theorem ignoresBlanks_stripSeparators : IgnoresBlanks stripSeparators := by
  have hblank {blanks : List Char} (h : ∀ c ∈ blanks, isBlank c = true) :
      blanks.filter isDialled = [] := by
    rw [List.filter_eq_nil_iff]
    intro c hc hdialled
    rw [not_isDialled_of_isBlank (h c hc)] at hdialled
    exact Bool.false_ne_true hdialled
  intro lead cs trail hlead htrail
  simp only [stripSeparators, String.toList_ofList, List.filter_append, hblank hlead, hblank htrail,
    List.nil_append, List.append_nil]

/-- `NamesOneNumber text` holds when at most one piece of a text has something to dial. -/
def NamesOneNumber (text : String) : Prop :=
  (operatorNumbers (pieces text)).length ≤ 1

theorem operatorNumbers_singleton (text : String) :
    operatorNumbers [text] = if stripSeparators text = "" then [] else [stripSeparators text] := by
  by_cases h : stripSeparators text = "" <;> simp [operatorNumbers, h]

/-- What is dialled in a text is what is dialled in its pieces, one after the other. -/
theorem flatMap_operatorNumbers_pieces (text : String) :
    (operatorNumbers (pieces text)).flatMap String.toList = (stripSeparators text).toList := by
  have hone (text : String) :
      (operatorNumbers [text]).flatMap String.toList = (stripSeparators text).toList := by
    rw [operatorNumbers_singleton]
    split
    · rename_i hempty
      rw [hempty]
      rfl
    · exact List.flatMap_singleton _ _
  have hall : ∀ cs : List Char,
      (operatorNumbers (pieces (String.ofList cs))).flatMap String.toList =
        cs.filter isDialled := by
    intro cs
    induction cs using comma_induction with
    | hlast cs hcs =>
        rw [pieces_of_not_mem hcs, hone, toList_stripSeparators, String.toList_ofList]
    | hcomma piece rest hpiece ih =>
        have hcut : operatorNumbers (String.ofList piece :: pieces (String.ofList rest)) =
            operatorNumbers [String.ofList piece] ++
              operatorNumbers (pieces (String.ofList rest)) :=
          kept_append [String.ofList piece] (pieces (String.ofList rest))
        have hcomma : isDialled ',' = false := by decide
        rw [pieces_ofList_comma hpiece, hcut, List.flatMap_append, ih, hone, toList_stripSeparators,
          String.toList_ofList, List.filter_append, List.filter_cons, hcomma]
        rfl
  rw [toList_stripSeparators, ← hall text.toList, String.ofList_toList]

/-- A text without commas names at most one number. -/
theorem NamesOneNumber.of_not_mem {text : String} (h : ',' ∉ text.toList) :
    NamesOneNumber text := by
  have hpieces : pieces text = [text] := by
    have hone := pieces_of_not_mem h
    rwa [String.ofList_toList] at hone
  rw [NamesOneNumber, hpieces]
  exact List.length_filter_le _ _

/-- A text that names at most one number names the same when it is cut at its commas. -/
theorem NamesOneNumber.operatorNumbers_pieces {text : String} (h : NamesOneNumber text) :
    operatorNumbers (pieces text) = operatorNumbers [text] := by
  have hdialled := flatMap_operatorNumbers_pieces text
  unfold NamesOneNumber at h
  rw [operatorNumbers_singleton]
  cases hnumbers : operatorNumbers (pieces text) with
  | nil =>
      rw [hnumbers] at hdialled
      have hempty : stripSeparators text = "" := String.toList_inj.mp hdialled.symm
      rw [if_pos hempty]
  | cons number others =>
      rw [hnumbers] at h hdialled
      have hothers : others = [] := List.length_eq_zero_iff.mp (by simpa using h)
      rw [hothers, List.flatMap_singleton] at hdialled
      have hnumber : number = stripSeparators text := String.toList_inj.mp hdialled
      have hmem : number ∈ operatorNumbers (pieces text) := by
        rw [hnumbers]
        exact List.mem_cons_self
      have hne : number ≠ "" := by
        simpa using (List.mem_filter.mp hmem).2
      rw [hnumber] at hne
      rw [if_neg hne, hothers, hnumber]

theorem operatorNumbers_flatMap_pieces {texts : List String}
    (h : ∀ text ∈ texts, NamesOneNumber text) :
    operatorNumbers (texts.flatMap pieces) = operatorNumbers texts := by
  have hone : (texts.map fun text ↦ operatorNumbers (pieces text)) =
      texts.map fun text ↦ operatorNumbers [text] :=
    List.map_congr_left fun text htext ↦ (h text htext).operatorNumbers_pieces
  have hcut (cut : String → List String) : operatorNumbers (texts.flatMap cut) =
      texts.flatMap fun text ↦ operatorNumbers (cut text) := kept_flatMap texts cut
  rw [hcut, List.flatMap_def, hone, ← List.flatMap_def, ← hcut, List.flatMap_singleton']

/-- Stripping further numbers makes no difference. -/
theorem operatorNumbers_stripped (texts : List String) :
    operatorNumbers (stripped texts) = operatorNumbers texts :=
  kept_stripped ignoresBlanks_stripSeparators rfl texts

/-- The numbers that a classifier knows have no separators. -/
theorem stripSeparators_of_mem {texts : List String} {number : String}
    (h : number ∈ globalNumbers ++ operatorNumbers texts) : stripSeparators number = number := by
  obtain hmem | hmem := List.mem_append.mp h
  · have hglobal : ∀ number ∈ globalNumbers, stripSeparators number = number := by decide
    exact hglobal number hmem
  · obtain ⟨text, -, rfl⟩ := List.mem_map.mp (List.mem_filter.mp hmem).1
    exact stripSeparators_stripSeparators text

/-- Classifiers that know the same regions agree when they know the same numbers. -/
theorem isEmergency_agree_iff {plan : NumberingPlan} {texts others : List String} :
    (∀ sim network raw,
      (Classifier.ofRegions sim network texts).isEmergency plan raw =
        (Classifier.ofRegions sim network others).isEmergency plan raw) ↔
      ∀ number, number ∈ globalNumbers ++ operatorNumbers texts ↔
        number ∈ globalNumbers ++ operatorNumbers others := by
  constructor
  · intro h number
    -- without a SIM region only the numbers themselves count, and these have no separators
    have hraw := h none none number
    have hmem (extra : List String) :
        (Classifier.ofRegions none none extra).isEmergency plan number =
          (globalNumbers ++ operatorNumbers extra).contains (stripSeparators number) :=
      Bool.or_false _
    rw [hmem, hmem, Bool.eq_iff_iff, List.contains_iff_mem, List.contains_iff_mem] at hraw
    constructor
    · intro hnumber
      rw [stripSeparators_of_mem hnumber] at hraw
      exact hraw.mp hnumber
    · intro hnumber
      rw [stripSeparators_of_mem hnumber] at hraw
      exact hraw.mpr hnumber
  · intro h sim network raw
    have hcontains : (globalNumbers ++ operatorNumbers texts).contains (stripSeparators raw) =
        (globalNumbers ++ operatorNumbers others).contains (stripSeparators raw) := by
      rw [Bool.eq_iff_iff, List.contains_iff_mem, List.contains_iff_mem]
      exact h (stripSeparators raw)
    rw [Classifier.isEmergency, Classifier.isEmergency, Classifier.ofRegions, Classifier.ofRegions,
      hcontains]

end Emergency

/-! ## Settings with a list and with a text -/

/-- `list.pieces` is the comma-separated pieces of a list of codes: those of the text, or those of
all items. -/
def ItemList.pieces : ItemList String → List String
  | csv text => Text.pieces text
  | list items => items.flatMap Text.pieces

/-- `item.input` is the configured value of an emergency number. -/
def EmergencyItem.input : EmergencyItem → Settings.Input
  | text value => .text value
  | number value => .int value

namespace Settings

open Emergency

/-- Codes are checked as they are. -/
theorem checkCountries_text (codes : List String) :
    checkCountries (.list (codes.map .text)) = .ok (.list codes) := by
  have hitems : checkCountries (.list (codes.map .text)) = .ok (.list (codes.map id)) :=
    checkItemList_map fun code _ ↦ rfl
  rwa [List.map_id] at hitems

/-- Emergency numbers are checked as they are. -/
theorem checkNumbers_input (numbers : List EmergencyItem) :
    checkNumbers (.list (numbers.map EmergencyItem.input)) = .ok (.list numbers) := by
  have hitem (item : EmergencyItem) : checkEmergencyItem item.input = .ok item := by
    cases item <;> rfl
  have hitems : checkNumbers (.list (numbers.map EmergencyItem.input)) =
      .ok (.list (numbers.map id)) := checkItemList_map fun item _ ↦ hitem item
  rwa [List.map_id] at hitems

/-- The countries that settings name are the normalised pieces that are not blank. -/
theorem named_countryList (settings : Settings) :
    Country.named settings.countryList =
      kept Country.normalizeText settings.supportedCountries.pieces := by
  rw [countryList, Country.named]
  cases settings.supportedCountries with
  | csv text =>
      show kept _ (pieces (joinCommas (stripped (pieces text)))) = kept _ (pieces text)
      rw [kept_pieces_joinCommas_stripped Country.ignoresBlanks_normalizeText rfl, flatMap_pieces]
  | list codes =>
      show kept _ (pieces (joinCommas (stripped (codes.map id)))) = kept _ (codes.flatMap pieces)
      rw [List.map_id, kept_pieces_joinCommas_stripped Country.ignoresBlanks_normalizeText rfl]

/-- A list of codes and its joined text give the same table. -/
theorem countryTable_joinCommas (codes : List String) :
    countryTable { supportedCountries := .list codes } =
      countryTable { supportedCountries := .csv (joinCommas codes) } := by
  apply Country.Table.ofCsv_congr
  rw [named_countryList, named_countryList]
  exact (kept_pieces_joinCommas rfl codes).symm

/-- `AgreeOnEmergencies plan settings other` holds when the classifiers that the two settings give
for any two regions agree on every text. -/
def AgreeOnEmergencies (plan : NumberingPlan) (settings other : Settings) : Prop :=
  ∀ sim network raw, (settings.emergencyClassifier sim network).isEmergency plan raw =
    (other.emergencyClassifier sim network).isEmergency plan raw

/-- Classifiers agree when the same numbers are configured. -/
theorem agreeOnEmergencies_iff {plan : NumberingPlan} {settings other : Settings} :
    AgreeOnEmergencies plan settings other ↔
      ∀ number,
        number ∈ globalNumbers ++
            operatorNumbers (settings.extraEmergencyNumbers.items EmergencyItem.display) ↔
          number ∈ globalNumbers ++
            operatorNumbers (other.extraEmergencyNumbers.items EmergencyItem.display) :=
  isEmergency_agree_iff

theorem operatorNumbers_items_list (numbers : List EmergencyItem) :
    operatorNumbers ((ItemList.list numbers).items EmergencyItem.display) =
      operatorNumbers (numbers.map EmergencyItem.display) :=
  operatorNumbers_stripped _

theorem operatorNumbers_items_joinCommas (texts : List String) :
    operatorNumbers ((ItemList.csv (joinCommas texts)).items EmergencyItem.display) =
      operatorNumbers (texts.flatMap pieces) := by
  have hitems : operatorNumbers ((ItemList.csv (joinCommas texts)).items EmergencyItem.display) =
      operatorNumbers (pieces (joinCommas texts)) := operatorNumbers_stripped _
  rw [hitems]
  exact kept_pieces_joinCommas rfl texts

/-- A list of supported countries and its joined text give the same table. A list of emergency
numbers and its joined text give classifiers that agree, if no item of the list names several
numbers; in general they agree exactly when cutting the items at their commas neither adds nor
removes a number that is not an emergency number anyway. -/
theorem joined_agrees_with_list (plan : NumberingPlan) :
    (∀ codes : List String, ∃ listed joined : Settings,
      validate (.only .supportedCountries (.list (codes.map .text))) = .ok listed ∧
        validate (.only .supportedCountries (.text (joinCommas codes))) = .ok joined ∧
        listed.countryTable = joined.countryTable) ∧
    (∀ numbers : List EmergencyItem, ∃ listed joined : Settings,
      validate (.only .extraEmergencyNumbers (.list (numbers.map EmergencyItem.input))) =
          .ok listed ∧
        validate (.only .extraEmergencyNumbers
          (.text (joinCommas (numbers.map EmergencyItem.display)))) = .ok joined ∧
        listed.isUsable = numbers.all EmergencyItem.isWritable ∧ joined.isUsable = true ∧
        ((∀ item ∈ numbers, NamesOneNumber item.display) →
          AgreeOnEmergencies plan listed joined) ∧
        (AgreeOnEmergencies plan listed joined ↔
          ∀ number, number ∉ globalNumbers →
            (number ∈ operatorNumbers (numbers.map EmergencyItem.display) ↔
              number ∈ operatorNumbers ((numbers.map EmergencyItem.display).flatMap pieces)))) := by
  constructor
  · intro codes
    exact ⟨_, _, validate_only_supportedCountries (checkCountries_text codes),
      validate_only_supportedCountries rfl, countryTable_joinCommas codes⟩
  · intro numbers
    refine ⟨_, _, validate_only_extraEmergencyNumbers (checkNumbers_input numbers),
      validate_only_extraEmergencyNumbers rfl, rfl, rfl, ?_, ?_⟩
    · intro hone
      rw [agreeOnEmergencies_iff, operatorNumbers_items_list, operatorNumbers_items_joinCommas,
        operatorNumbers_flatMap_pieces]
      · exact fun number ↦ Iff.rfl
      · intro text htext
        obtain ⟨item, hitem, rfl⟩ := List.mem_map.mp htext
        exact hone item hitem
    · rw [agreeOnEmergencies_iff, operatorNumbers_items_list, operatorNumbers_items_joinCommas]
      refine forall_congr' fun number ↦ ?_
      rw [List.mem_append, List.mem_append]
      by_cases hglobal : number ∈ globalNumbers <;> simp [hglobal]

/-- The list of the one item `112,999` has no number `999`, its joined text has. -/
theorem one_item_with_comma :
    ∃ listed joined : Settings,
      validate (.only .extraEmergencyNumbers (.list [.text "112,999"])) = .ok listed ∧
        validate (.only .extraEmergencyNumbers (.text (joinCommas ["112,999"]))) = .ok joined ∧
        (listed.emergencyClassifier none none).isEmergency .current "999" = false ∧
        (joined.emergencyClassifier none none).isEmergency .current "999" = true := by
  refine ⟨_, _, rfl, rfl, ?_, ?_⟩
  · decide
  · decide

end Settings

end AssistedDialing
