import AssistedDialing.Proofs.ConfiguredLists
import AssistedDialing.Proofs.PlainWords
import AssistedDialing.Proofs.Precedence
import Mathlib.Data.List.Basic
import Mathlib.Tactic.Choose

/-!
# A list from a file and from a variable

A list setting can be given in a YAML file, as words in brackets, or in a variable, as a text with
commas. `file_and_variable` says when the two agree: a file gives its words the types that YAML
finds in them, and the settings want texts, or integers that are written out again. So a number
with a zero before other digits below eight becomes another number, a code such as `NO` is refused,
and so is a number of too many digits; all else is the same.
-/

namespace AssistedDialing.Settings

open Emergency Text Yaml

/-! ## Hosts with one source -/

/-- Nothing is configured but what a YAML file says. -/
structure OnlyFile (host : Host) (path text : String) : Prop where
  environment : ∀ field : Field, host.environment field.variableName = none
  environmentFile : host.files (Path.ofText defaultEnvironmentFile).text = .missing
  file : ∃ bytes, host.files (Path.ofText path).text = .file bytes ∧ textOf bytes = .ok text

/-- Nothing is configured but one variable. -/
structure OnlyVariable (host : Host) (field : Field) (value : String) : Prop where
  environment : ∀ other : Field,
    host.environment other.variableName = if other = field then some value else none
  unnamed : host.environment fileVariable = none
  environmentFile : host.files (Path.ofText defaultEnvironmentFile).text = .missing

theorem environmentText_of_missing {host : Host} {path : String}
    (h : host.files (Path.ofText path).text = .missing) : environmentText host path = .ok "" := by
  simp only [environmentText, h]

/-- What a file alone says is validated. -/
theorem load_onlyFile {host : Host} {path text : String} (h : OnlyFile host path text) :
    (load host (some path) none).settings =
      ((Yaml.Content.ofText text).mapError .yaml).bind fun content ↦
        (validate (.ofContent content)).mapError .invalid := by
  obtain ⟨bytes, hbytes, htext⟩ := h.file
  have hyaml : yamlInputs host path =
      ((Yaml.Content.ofText text).mapError .yaml).map .ofContent := by
    rw [yamlInputs_of_file hbytes, htext]
    rfl
  have henvironment : Inputs.ofEnvironment host.environment = .empty := by
    funext field
    rw [Inputs.ofEnvironment, h.environment field]
    rfl
  have hinputs : inputs host (some path) (EnvironmentFile.lookup host.environment "") =
      ((Yaml.Content.ofText text).mapError .yaml).map .ofContent := by
    rw [inputs, henvironment]
    show (do
      let fromFile ← yamlInputs host path
      return Inputs.empty.orElse (Inputs.empty.orElse fromFile)) = _
    rw [hyaml]
    cases Yaml.Content.ofText text <;> rfl
  rw [load, Option.getD_none, environmentText_of_missing h.environmentFile]
  show (do
    let inputs ← inputs host (some path) (EnvironmentFile.lookup host.environment "")
    (validate inputs).mapError .invalid) = _
  rw [hinputs]
  cases Yaml.Content.ofText text <;> rfl

/-- What a variable alone says is validated. -/
theorem load_onlyVariable {host : Host} {field : Field} {value : String}
    (h : OnlyVariable host field value) :
    (load host none none).settings = (validate (.only field (.text value))).mapError .invalid := by
  have henvironment : Inputs.ofEnvironment host.environment = .only field (.text value) := by
    funext other
    rw [Inputs.ofEnvironment, h.environment other, Inputs.only]
    split <;> rfl
  have hunnamed : namedFile host.environment = none := by
    rw [namedFile, h.unnamed]
    rfl
  have hinputs : inputs host none (EnvironmentFile.lookup host.environment "") =
      .ok (.only field (.text value)) := by
    rw [inputs, henvironment, hunnamed]
    show Except.ok ((Inputs.only field (.text value)).orElse (Inputs.empty.orElse Inputs.empty)) = _
    refine congrArg Except.ok (funext fun other ↦ ?_)
    rw [Inputs.orElse]
    exact Option.or_none
  rw [load, Option.getD_none, environmentText_of_missing h.environmentFile]
  show (do
    let inputs ← inputs host none (EnvironmentFile.lookup host.environment "")
    (validate inputs).mapError .invalid) = _
  rw [hinputs]
  rfl

/-! ## A list in a file -/

/-- A mapping with one name gives one setting. -/
theorem ofContent_mapping (field : Field) (content : Yaml.Content) :
    Inputs.ofContent (.mapping [(.text field.name, content)]) =
      .only field (.ofContent content) := by
  funext other
  show [(field.name, Input.ofContent content)].lookup other.name = _
  rw [List.lookup_cons, Inputs.only]
  by_cases h : other = field
  · rw [h, if_pos rfl, beq_self_eq_true]
  · have hname : other.name ≠ field.name := Field.name_injective.ne h
    rw [if_neg h, beq_eq_false_iff_ne.mpr hname]
    rfl

/-- The name of a setting is a word that is a text. -/
theorem isWord_name (field : Field) : IsWord field.name.toList := by
  have hchars : field.name.toList.all isWordChar = true := by cases field <;> decide
  have hne : field.name.toList ≠ [] := by cases field <;> decide
  exact ⟨hne, List.all_eq_true.mp hchars⟩

theorem ofPlain_name (field : Field) : Tag.ofPlain field.name = .str := by
  cases field <;> decide

theorem length_name_le (field : Field) : field.name.length ≤ 1024 := by
  cases field <;> decide

theorem itemsOfContent_eq (contents : List Yaml.Content) :
    Input.itemsOfContent contents = contents.map .ofContent := by
  induction contents with
  | nil => rfl
  | cons content contents ih => rw [Input.itemsOfContent, ih, List.map_cons]

/-- The words of a list in a file are validated with the values that they have. -/
theorem load_flowList {host : Host} {path : String} {field : Field} {words : List String}
    (h : OnlyFile host path (Content.flowList field.name words)) (hne : words ≠ [])
    (hwords : ∀ word ∈ words, IsWord word.toList) :
    (load host (some path) none).settings =
      ((words.mapM fun word ↦ wordContent word.toList).mapError .yaml).bind fun contents ↦
        (validate (.only field (.list (contents.map .ofContent)))).mapError .invalid := by
  rw [load_onlyFile h, Content.ofText_flowList (isWord_name field) (length_name_le field)
    (ofPlain_name field) hne hwords]
  cases words.mapM fun word ↦ wordContent word.toList with
  | error failure => rfl
  | ok contents =>
      show (validate (.ofContent (.mapping [(.text field.name, .list contents)]))).mapError _ = _
      rw [ofContent_mapping, Input.ofContent, itemsOfContent_eq]
      rfl

/-- A list in a file is loaded when all its words have values that the setting wants. -/
theorem load_flowList_ok {host : Host} {path : String} {field : Field} {words : List String}
    (h : OnlyFile host path (Content.flowList field.name words)) (hne : words ≠ [])
    (hwords : ∀ word ∈ words, IsWord word.toList) {contents : String → Yaml.Content}
    (hcontents : ∀ word ∈ words, wordContent word.toList = .ok (contents word)) :
    (load host (some path) none).settings =
      (validate (.only field (.list (words.map fun word ↦ .ofContent (contents word))))).mapError
        .invalid := by
  have hvalues : (words.mapM fun word ↦ wordContent word.toList) = .ok (words.map contents) := by
    rw [mapM_eq_ok_iff, List.map_map]
    exact List.map_congr_left hcontents
  rw [load_flowList h hne hwords, hvalues]
  show (validate (.only field (.list ((words.map contents).map .ofContent)))).mapError _ = _
  rw [List.map_map]
  rfl

theorem load_flowList_error {host : Host} {path : String} {field : Field} {words : List String}
    (h : OnlyFile host path (Content.flowList field.name words)) (hne : words ≠ [])
    (hwords : ∀ word ∈ words, IsWord word.toList) {word : String} (hword : word ∈ words)
    {failure : Failure} (hfailure : wordContent word.toList = .error failure) :
    ∃ error, (load host (some path) none).settings = .error error := by
  rw [load_flowList h hne hwords]
  cases hvalues : words.mapM fun word ↦ wordContent word.toList with
  | error failure => exact ⟨_, rfl⟩
  | ok contents =>
      have hmem : wordContent word.toList ∈ contents.map Except.ok := by
        rw [← mapM_eq_ok_iff.mp hvalues]
        exact List.mem_map_of_mem hword
      obtain ⟨content, -, hcontent⟩ := List.mem_map.mp hmem
      rw [hfailure] at hcontent
      cases hcontent

/-! ## Numbers -/

/-- `IsNumber text` holds for texts of ASCII digits. -/
def IsNumber (text : String) : Prop :=
  text ≠ "" ∧ text.toList.all isAsciiDigit = true

/-- `IsReadable number` holds for numbers that a file can give: those that are padded, and those
that have not too many digits. -/
def IsReadable (number : String) : Prop :=
  isPadded number.toList = true ∨ number.length ≤ DigitLimit.maxDigits

/-- `itemContent item` is the value in a document that gives an emergency number. -/
def itemContent : EmergencyItem → Yaml.Content
  | .text value => .text value
  | .number value => .int value

theorem ofContent_itemContent (item : EmergencyItem) :
    Input.ofContent (itemContent item) = item.input := by
  cases item <;> rfl

theorem IsNumber.toList_ne_nil {number : String} (h : IsNumber number) : number.toList ≠ [] :=
  fun hnil ↦ h.1 (String.toList_inj.mp hnil)

theorem IsNumber.isWord {number : String} (h : IsNumber number) : IsWord number.toList :=
  .of_digits h.toList_ne_nil h.2

theorem display_number (n : Nat) :
    (EmergencyItem.number n).display = String.ofList (Nat.toDigits 10 n) := by
  have hpositive : ¬ (n : Int) < 0 := by omega
  rw [EmergencyItem.display, Value.intText, Json.intChars, if_neg hpositive, Int.natAbs_natCast]

/-- A number that is written with so few digits is writable. -/
theorem isWritable_number {n : Nat} (hpos : 0 < DigitLimit.maxDigits)
    (h : (Nat.toDigits 10 n).length ≤ DigitLimit.maxDigits) :
    (EmergencyItem.number n).isWritable = true := by
  have hbound {limit : Nat} (hlimit : 0 < limit) (h : (Nat.toDigits 10 n).length ≤ limit) :
      n < Nat.pow 10 limit := (Nat.length_toDigits_le_iff (by decide) hlimit).mp h
  rw [EmergencyItem.isWritable, DigitLimit.isWritable, Int.natAbs_natCast]
  exact decide_eq_true (hbound hpos h)

theorem isWritable_eq_false {n : Nat} (h : 10 ^ DigitLimit.maxDigits ≤ n) :
    (EmergencyItem.number n).isWritable = false := by
  have hbound {limit : Nat} (h : 10 ^ limit ≤ n) : ¬ n < Nat.pow 10 limit := Nat.not_lt.mpr h
  rw [EmergencyItem.isWritable, DigitLimit.isWritable, Int.natAbs_natCast]
  exact decide_eq_false (hbound h)

theorem isPadded_of_isOctal {cs : List Char} (h : isOctal cs = true) : isPadded cs = true := by
  unfold isOctal at h
  split at h
  · rw [Bool.and_eq_true] at h
    exact h.1
  · cases h

/-- `ReadsAs number item` says what item a number in a file can be: the number itself, unless it is
octal, and then another number. -/
structure ReadsAs (number : String) (item : EmergencyItem) : Prop where
  content : wordContent number.toList = .ok (itemContent item)
  kept : isOctal number.toList = false → item.display = number ∧ item.isWritable = true
  octal : isOctal number.toList = true → ∃ n : Nat, item = .number n

/-- A number in a file is read if it is readable. -/
theorem IsNumber.exists_readsAs {number : String} (h : IsNumber number)
    (hreadable : IsReadable number) : ∃ item, ReadsAs number item := by
  cases hpadded : isPadded number.toList with
  | false =>
      have hlength : number.toList.length ≤ DigitLimit.maxDigits :=
        hreadable.resolve_left fun hother ↦ by rw [hpadded] at hother; cases hother
      have hoctal : isOctal number.toList = false := by
        rw [← Bool.not_eq_true]
        intro hoctal
        rw [isPadded_of_isOctal hoctal] at hpadded
        cases hpadded
      obtain ⟨n, hcontent, hdigits⟩ := wordContent_digits h.toList_ne_nil h.2 hpadded hlength
      refine ⟨.number n, hcontent, fun _ ↦ ⟨?_, ?_⟩, fun hother ↦ ?_⟩
      · rw [display_number, hdigits, String.ofList_toList]
      · exact isWritable_number (by decide) (by rwa [hdigits])
      · rw [hoctal] at hother
        cases hother
  | true =>
      cases hoctal : isOctal number.toList with
      | true =>
          refine ⟨.number (octalValue number.toList), wordContent_octal h.2 hoctal,
            fun hother ↦ ?_, fun _ ↦ ⟨_, rfl⟩⟩
          rw [hoctal] at hother
          cases hother
      | false =>
          have hcontent := wordContent_padded h.toList_ne_nil h.2 hpadded hoctal
          rw [String.ofList_toList] at hcontent
          refine ⟨.text number, hcontent, fun _ ↦ ⟨rfl, rfl⟩, fun hother ↦ ?_⟩
          rw [hoctal] at hother
          cases hother

/-- Nothing is stripped from digits. -/
theorem stripSeparators_digits {cs : List Char} (h : cs.all isAsciiDigit = true) :
    stripSeparators (String.ofList cs) = String.ofList cs := by
  have hdialled : cs.filter isDialled = cs := by
    rw [List.filter_eq_self]
    intro c hc
    have hdigits : Dialled.asciiDigits.all isDialled = true := by decide
    exact Dialled.of_isAsciiDigit hdigits (List.all_eq_true.mp h c hc)
  rw [stripSeparators, String.toList_ofList, hdialled]

/-- Numbers are operator numbers as they are. -/
theorem operatorNumbers_of_isNumber {numbers : List String}
    (h : ∀ number ∈ numbers, IsNumber number) : operatorNumbers numbers = numbers := by
  have hmap : numbers.map stripSeparators = numbers.map id := by
    apply List.map_congr_left
    intro number hnumber
    have hstripped := stripSeparators_digits (h number hnumber).2
    rwa [String.ofList_toList] at hstripped
  rw [operatorNumbers, hmap, List.map_id, List.filter_eq_self]
  intro number hnumber
  exact decide_eq_true (h number hnumber).1

/-- The decimal digits of a number are not octal. -/
theorem isOctal_toDigits (n : Nat) : isOctal (Nat.toDigits 10 n) = false := by
  by_cases hn : n = 0
  · rw [hn]
    rfl
  · have hzero := head?_toDigits (Nat.pos_of_ne_zero hn)
    unfold isOctal
    split
    · next heq =>
      rw [heq] at hzero
      exact absurd rfl hzero
    · rfl

namespace ReadsAs

variable {number : String} {item : EmergencyItem}

theorem isNumber_display (h : ReadsAs number item) (hnumber : IsNumber number) :
    IsNumber item.display := by
  cases hoctal : isOctal number.toList with
  | false => rwa [(h.kept hoctal).1]
  | true =>
      obtain ⟨n, rfl⟩ := h.octal hoctal
      rw [display_number]
      constructor
      · intro hempty
        exact Nat.toDigits_ne_nil (String.ofList_eq_empty_iff.mp hempty)
      · rw [String.toList_ofList, List.all_eq_true]
        exact fun c hc ↦ isAsciiDigit_of_mem_toDigits hc

/-- No item is written like an octal number. -/
theorem isOctal_display (h : ReadsAs number item) : isOctal item.display.toList = false := by
  cases hoctal : isOctal number.toList with
  | false => rwa [(h.kept hoctal).1]
  | true =>
      obtain ⟨n, rfl⟩ := h.octal hoctal
      rw [display_number, String.toList_ofList, isOctal_toDigits]

end ReadsAs

/-- Settings with the items that numbers in a file are read as agree with settings with the numbers
themselves when none of these is octal. -/
theorem agree_readsAs_iff {plan : NumberingPlan} {numbers : List String}
    (hnumbers : ∀ number ∈ numbers, IsNumber number) {item : String → EmergencyItem}
    (hitem : ∀ number ∈ numbers, ReadsAs number (item number)) :
    AgreeOnEmergencies plan { extraEmergencyNumbers := .list (numbers.map item) }
        { extraEmergencyNumbers := .csv (joinCommas numbers) } ↔
      ∀ number ∈ numbers, isOctal number.toList = false := by
  have hlisted : operatorNumbers ((numbers.map item).map EmergencyItem.display) =
      (numbers.map item).map EmergencyItem.display := by
    apply operatorNumbers_of_isNumber
    intro text htext
    obtain ⟨_, hmem, rfl⟩ := List.mem_map.mp htext
    obtain ⟨number, hnumber, rfl⟩ := List.mem_map.mp hmem
    exact (hitem number hnumber).isNumber_display (hnumbers number hnumber)
  have hjoined : operatorNumbers (numbers.flatMap pieces) = numbers := by
    have hone : ∀ number ∈ numbers, NamesOneNumber number := by
      intro number hnumber
      exact .of_not_mem ((hnumbers number hnumber).isWord.not_mem (by decide))
    rw [operatorNumbers_flatMap_pieces hone, operatorNumbers_of_isNumber hnumbers]
  rw [agreeOnEmergencies_iff, operatorNumbers_items_list, operatorNumbers_items_joinCommas,
    hlisted, hjoined]
  constructor
  · intro h number hnumber
    -- an octal number is neither global nor among the items
    rw [← Bool.not_eq_true]
    intro hoctal
    obtain hglobal | hmem := List.mem_append.mp ((h number).mpr (List.mem_append_right _ hnumber))
    · have hglobals : ∀ number ∈ globalNumbers, isOctal number.toList = false := by decide
      rw [hglobals number hglobal] at hoctal
      cases hoctal
    · obtain ⟨_, hmem, hdisplay⟩ := List.mem_map.mp hmem
      obtain ⟨other, hother, rfl⟩ := List.mem_map.mp hmem
      rw [← hdisplay, (hitem other hother).isOctal_display] at hoctal
      cases hoctal
  · intro h number
    have hdisplay : (numbers.map item).map EmergencyItem.display = numbers.map id := by
      rw [List.map_map]
      exact List.map_congr_left fun number hnumber ↦
        ((hitem number hnumber).kept (h number hnumber)).1
    rw [hdisplay, List.map_id]

/-- Settings with the items that numbers in a file are read as are usable if none of the numbers is
octal. -/
theorem isUsable_of_not_octal {numbers : List String} {item : String → EmergencyItem}
    (hitem : ∀ number ∈ numbers, ReadsAs number (item number))
    (h : ∀ number ∈ numbers, isOctal number.toList = false) :
    isUsable { extraEmergencyNumbers := .list (numbers.map item) } = true := by
  show (numbers.map item).all EmergencyItem.isWritable = true
  rw [List.all_map, List.all_eq_true]
  exact fun number hnumber ↦ ((hitem number hnumber).kept (h number hnumber)).2

section Numbers

variable {fileHost variableHost : Host} {path : String} {numbers : List String}

/-- A list of readable numbers is loaded from a file. -/
theorem load_numbers
    (hfile : OnlyFile fileHost path (Content.flowList Field.extraEmergencyNumbers.name numbers))
    (hne : numbers ≠ []) (hnumbers : ∀ number ∈ numbers, IsNumber number)
    (hreadable : ∀ number ∈ numbers, IsReadable number) :
    ∃ item : String → EmergencyItem, (∀ number ∈ numbers, ReadsAs number (item number)) ∧
      (load fileHost (some path) none).settings =
        .ok { extraEmergencyNumbers := .list (numbers.map item) } := by
  have hitems : ∀ number ∈ numbers, ∃ item, ReadsAs number item :=
    fun number hnumber ↦ (hnumbers number hnumber).exists_readsAs (hreadable number hnumber)
  choose! item hitem using hitems
  refine ⟨item, hitem, ?_⟩
  have hinputs : (numbers.map fun number ↦ Input.ofContent (itemContent (item number))) =
      (numbers.map item).map EmergencyItem.input := by
    rw [List.map_map]
    exact List.map_congr_left fun number _ ↦ ofContent_itemContent (item number)
  have hcheck : checkNumbers (.list ((numbers.map item).map EmergencyItem.input)) =
      .ok (.list (numbers.map item)) := checkNumbers_input _
  have hcontents : ∀ number ∈ numbers,
      wordContent number.toList = .ok (itemContent (item number)) :=
    fun number hnumber ↦ (hitem number hnumber).content
  rw [load_flowList_ok hfile hne (fun number hnumber ↦ (hnumbers number hnumber).isWord) hcontents,
    hinputs, validate_only_extraEmergencyNumbers hcheck]
  rfl

/-- Numbers that are loaded from a file are readable. -/
theorem isReadable_of_load
    (hfile : OnlyFile fileHost path (Content.flowList Field.extraEmergencyNumbers.name numbers))
    (hne : numbers ≠ []) (hnumbers : ∀ number ∈ numbers, IsNumber number) {listed : Settings}
    (hload : (load fileHost (some path) none).settings = .ok listed) :
    ∀ number ∈ numbers, IsReadable number := by
  intro number hnumber
  by_contra hunreadable
  rw [IsReadable, not_or, Bool.not_eq_true, Nat.not_le] at hunreadable
  obtain ⟨error, herror⟩ := load_flowList_error hfile hne
    (fun number hnumber ↦ (hnumbers number hnumber).isWord) hnumber
    (wordContent_tooManyDigits (hnumbers number hnumber).2 hunreadable.1 hunreadable.2)
  rw [herror] at hload
  cases hload

/-- Numbers from a variable are loaded, and numbers from a file when all are readable. Then the
settings from the file are usable and agree with those from the variable when no number is octal. -/
theorem numbers_from_file_and_variable (plan : NumberingPlan)
    (hfile : OnlyFile fileHost path (Content.flowList Field.extraEmergencyNumbers.name numbers))
    (hvariable : OnlyVariable variableHost .extraEmergencyNumbers (joinCommas numbers))
    (hne : numbers ≠ []) (hnumbers : ∀ number ∈ numbers, IsNumber number) :
    ∃ given : Settings, (load variableHost none none).settings = .ok given ∧
      given.isUsable = true ∧
      ((∃ listed, (load fileHost (some path) none).settings = .ok listed) ↔
        ∀ number ∈ numbers, IsReadable number) ∧
      ∀ listed, (load fileHost (some path) none).settings = .ok listed →
        (listed.isUsable = true ∧ AgreeOnEmergencies plan listed given ↔
          ∀ number ∈ numbers, isOctal number.toList = false) := by
  have hcheck : checkNumbers (.text (joinCommas numbers)) = .ok (.csv (joinCommas numbers)) := rfl
  refine ⟨{ extraEmergencyNumbers := .csv (joinCommas numbers) }, ?_, rfl, ⟨?_, ?_⟩, ?_⟩
  · rw [load_onlyVariable hvariable, validate_only_extraEmergencyNumbers hcheck]
    rfl
  · rintro ⟨listed, hload⟩
    exact isReadable_of_load hfile hne hnumbers hload
  · intro hreadable
    obtain ⟨item, -, hload⟩ := load_numbers hfile hne hnumbers hreadable
    exact ⟨_, hload⟩
  · intro listed hlisted
    have hreadable := isReadable_of_load hfile hne hnumbers hlisted
    obtain ⟨item, hitem, hload⟩ := load_numbers hfile hne hnumbers hreadable
    obtain rfl := Except.ok.inj (hload.symm.trans hlisted)
    rw [agree_readsAs_iff hnumbers hitem]
    exact ⟨And.right, fun h ↦ ⟨isUsable_of_not_octal hitem h, h⟩⟩

end Numbers

/-! ## Countries -/

/-- `IsCode text` holds for texts of two ASCII letters. -/
def IsCode (text : String) : Prop :=
  text.length = 2 ∧ text.toList.all isAsciiLetter = true

section Codes

variable {fileHost variableHost : Host} {path : String} {codes : List String}

theorem IsCode.exists_letters {code : String} (h : IsCode code) :
    ∃ a b, code = String.ofList [a, b] ∧ isAsciiLetter a = true ∧ isAsciiLetter b = true := by
  obtain ⟨hlength, hletters⟩ := h
  obtain ⟨a, b, hab⟩ := List.length_eq_two.mp (hlength : code.toList.length = 2)
  rw [hab, List.all_cons, List.all_cons, Bool.and_eq_true, Bool.and_eq_true] at hletters
  exact ⟨a, b, by rw [← hab, String.ofList_toList], hletters.1, hletters.2.1⟩

theorem IsCode.isWord {code : String} (h : IsCode code) : IsWord code.toList := by
  obtain ⟨a, b, rfl, ha, hb⟩ := h.exists_letters
  rw [String.toList_ofList]
  exact .of_letters ha hb

/-- A code in a file is a text, unless it is a word for a truth value. -/
theorem IsCode.exists_content {code : String} (h : IsCode code) :
    (code ∉ boolWords ∧ wordContent code.toList = .ok (.text code)) ∨
      (code ∈ boolWords ∧ ∃ value, wordContent code.toList = .ok (.bool value)) := by
  obtain ⟨a, b, rfl, ha, hb⟩ := h.exists_letters
  rw [String.toList_ofList]
  by_cases hbool : String.ofList [a, b] ∈ boolWords
  · exact .inr ⟨hbool, wordContent_boolWord ha hb hbool⟩
  · exact .inl ⟨hbool, wordContent_letters ha hb hbool⟩

/-- Codes that are no words for truth values are loaded from a file as they are. -/
theorem load_codes
    (hfile : OnlyFile fileHost path (Content.flowList Field.supportedCountries.name codes))
    (hne : codes ≠ []) (hcodes : ∀ code ∈ codes, IsCode code)
    (htexts : ∀ code ∈ codes, code ∉ boolWords) :
    (load fileHost (some path) none).settings = .ok { supportedCountries := .list codes } := by
  have hcontents : ∀ code ∈ codes, wordContent code.toList = .ok (.text code) := by
    intro code hcode
    obtain ⟨-, hcontent⟩ | ⟨hbool, -⟩ := (hcodes code hcode).exists_content
    · exact hcontent
    · exact absurd hbool (htexts code hcode)
  rw [load_flowList_ok hfile hne (fun code hcode ↦ (hcodes code hcode).isWord) hcontents]
  show (validate (.only .supportedCountries (.list (codes.map .text)))).mapError _ = _
  rw [validate_only_supportedCountries (checkCountries_text codes)]
  rfl

/-- A list with a word for a truth value is refused. -/
theorem load_codes_refused
    (hfile : OnlyFile fileHost path (Content.flowList Field.supportedCountries.name codes))
    (hne : codes ≠ []) (hcodes : ∀ code ∈ codes, IsCode code) {code : String}
    (hcode : code ∈ codes) (hbool : code ∈ boolWords) :
    ∃ error, (load fileHost (some path) none).settings = .error error := by
  have hcontents : ∀ code ∈ codes, ∃ content, wordContent code.toList = .ok content := by
    intro code hcode
    obtain ⟨-, hcontent⟩ | ⟨-, value, hcontent⟩ := (hcodes code hcode).exists_content
    · exact ⟨_, hcontent⟩
    · exact ⟨_, hcontent⟩
  choose! content hcontent using hcontents
  obtain ⟨value, hvalue⟩ : ∃ value, content code = .bool value := by
    obtain ⟨hnone, -⟩ | ⟨-, value, hvalue⟩ := (hcodes code hcode).exists_content
    · exact absurd hbool hnone
    · exact ⟨value, Except.ok.inj ((hcontent code hcode).symm.trans hvalue)⟩
  have hmem : Input.bool value ∈ codes.map fun code ↦ Input.ofContent (content code) := by
    refine List.mem_map.mpr ⟨code, hcode, ?_⟩
    rw [hvalue]
    rfl
  have hchecked :
      ∃ found, checkCountries (.list (codes.map fun code ↦ .ofContent (content code))) =
        .error found := checkItemList_of_refused hmem rfl
  obtain ⟨problems, hrefused⟩ := hchecked
  obtain ⟨found, hfound⟩ := validate_only_supportedCountries_refused hrefused
  rw [load_flowList_ok hfile hne (fun code hcode ↦ (hcodes code hcode).isWord) hcontent, hfound]
  exact ⟨_, rfl⟩

/-- Codes from a variable are loaded, and codes from a file when none is a word for a truth value.
Then the two tables of countries are the same. -/
theorem codes_from_file_and_variable
    (hfile : OnlyFile fileHost path (Content.flowList Field.supportedCountries.name codes))
    (hvariable : OnlyVariable variableHost .supportedCountries (joinCommas codes))
    (hne : codes ≠ []) (hcodes : ∀ code ∈ codes, IsCode code) :
    ∃ given : Settings, (load variableHost none none).settings = .ok given ∧
      ((∃ listed, (load fileHost (some path) none).settings = .ok listed) ↔
        ∀ code ∈ codes, code ∉ boolWords) ∧
      ∀ listed, (load fileHost (some path) none).settings = .ok listed →
        listed.countryTable = given.countryTable := by
  have hcheck : checkCountries (.text (joinCommas codes)) = .ok (.csv (joinCommas codes)) := rfl
  have htexts {listed : Settings}
      (hload : (load fileHost (some path) none).settings = .ok listed) :
      ∀ code ∈ codes, code ∉ boolWords := by
    intro code hcode hbool
    obtain ⟨error, herror⟩ := load_codes_refused hfile hne hcodes hcode hbool
    rw [herror] at hload
    cases hload
  refine ⟨{ supportedCountries := .csv (joinCommas codes) }, ?_, ⟨?_, ?_⟩, ?_⟩
  · rw [load_onlyVariable hvariable, validate_only_supportedCountries hcheck]
    rfl
  · rintro ⟨listed, hload⟩
    exact htexts hload
  · intro htexts
    exact ⟨_, load_codes hfile hne hcodes htexts⟩
  · intro listed hlisted
    have hload := load_codes hfile hne hcodes (htexts hlisted)
    obtain rfl := Except.ok.inj (hload.symm.trans hlisted)
    exact countryTable_joinCommas codes

end Codes

/-! ## Both lists -/

/-- A list of numbers or of codes can always be given by a variable. A file gives the same numbers
unless one of them is octal or, without a zero before it, has too many digits, and it gives the same
countries unless one of the codes is a word for a truth value. -/
theorem file_and_variable (plan : NumberingPlan) {fileHost variableHost : Host} {path : String} :
    (∀ numbers : List String, numbers ≠ [] → (∀ number ∈ numbers, IsNumber number) →
      OnlyFile fileHost path (Content.flowList Field.extraEmergencyNumbers.name numbers) →
      OnlyVariable variableHost .extraEmergencyNumbers (joinCommas numbers) →
      ∃ given : Settings, (load variableHost none none).settings = .ok given ∧
        given.isUsable = true ∧
        ((∃ listed, (load fileHost (some path) none).settings = .ok listed) ↔
          ∀ number ∈ numbers, IsReadable number) ∧
        ∀ listed, (load fileHost (some path) none).settings = .ok listed →
          (listed.isUsable = true ∧ AgreeOnEmergencies plan listed given ↔
            ∀ number ∈ numbers, isOctal number.toList = false)) ∧
    (∀ codes : List String, codes ≠ [] → (∀ code ∈ codes, IsCode code) →
      OnlyFile fileHost path (Content.flowList Field.supportedCountries.name codes) →
      OnlyVariable variableHost .supportedCountries (joinCommas codes) →
      ∃ given : Settings, (load variableHost none none).settings = .ok given ∧
        ((∃ listed, (load fileHost (some path) none).settings = .ok listed) ↔
          ∀ code ∈ codes, code ∉ boolWords) ∧
        ∀ listed, (load fileHost (some path) none).settings = .ok listed →
          listed.countryTable = given.countryTable) := by
  constructor
  · intro numbers hne hnumbers hfile hvariable
    exact numbers_from_file_and_variable plan hfile hvariable hne hnumbers
  · intro codes hne hcodes hfile hvariable
    exact codes_from_file_and_variable hfile hvariable hne hcodes

/-- A host with a file `device.yaml` and nothing else. -/
def deviceFile (text : String) : Host where
  files := fun path ↦
    if path = "device.yaml" then .file (text.toList.map fun c ↦ UInt8.ofNat c.toNat) else .missing
  environment := fun _ ↦ none

/-- Bytes below 128 are the characters with these codes. -/
theorem decodeFrom_ascii {cs : List Char} (h : ∀ c ∈ cs, c.toNat < 0x80) (position : Nat) :
    decodeFrom cs.length position (cs.map fun c ↦ UInt8.ofNat c.toNat) = .ok cs := by
  induction cs generalizing position with
  | nil => rfl
  | cons c cs ih =>
      have hc := h c List.mem_cons_self
      have hbyte : (UInt8.ofNat c.toNat).toNat = c.toNat :=
        UInt8.toNat_ofNat_of_lt' (Nat.lt_trans hc (by decide))
      rw [List.map_cons, List.length_cons, decodeFrom, hbyte, if_pos hc, Char.ofNat_toNat,
        ih fun d hd ↦ h d (List.mem_cons_of_mem _ hd)]
      rfl

theorem unifyLineEndChars_eq {cs : List Char} (h : '\r' ∉ cs) : unifyLineEndChars cs = cs := by
  fun_induction unifyLineEndChars cs with
  | case1 => rfl
  | case2 cs ih => exact absurd List.mem_cons_self h
  | case3 c cs _ ih =>
      obtain ⟨hc, hcs⟩ : c ≠ '\r' ∧ '\r' ∉ cs := by simpa [eq_comm] using h
      rw [if_neg hc, ih hcs]

/-- A file of ASCII characters with one kind of line end is its text. -/
theorem onlyFile_deviceFile {text : String}
    (h : ∀ c ∈ text.toList, c.toNat < 0x80 ∧ c ≠ '\r') :
    OnlyFile (deviceFile text) "device.yaml" text := by
  refine ⟨fun _ ↦ rfl, rfl, _, rfl, ?_⟩
  have hdecode := decodeFrom_ascii (fun c hc ↦ (h c hc).1) 0
  have hreturn : '\r' ∉ text.toList := fun hmem ↦ (h _ hmem).2 rfl
  rw [textOf, decodeUtf8, List.length_map, hdecode]
  show Except.ok (unifyLineEnds (String.ofList text.toList)) = _
  rw [unifyLineEnds, String.toList_ofList, unifyLineEndChars_eq hreturn, String.ofList_toList]

/-- A list of words in a file is its text. -/
theorem onlyFile_flowList {field : Field} {words : List String} (hne : words ≠ [])
    (hwords : ∀ word ∈ words, IsWord word.toList) :
    OnlyFile (deviceFile (Content.flowList field.name words)) "device.yaml"
      (Content.flowList field.name words) := by
  have hword {cs : List Char} (hcs : IsWord cs) : ∀ c ∈ cs, c.toNat < 0x80 ∧ c ≠ '\r' := by
    intro c hc
    have hcode := toNat_of_isWordChar (hcs.chars c hc)
    refine ⟨by omega, ?_⟩
    rintro rfl
    simp at hcode
  apply onlyFile_deviceFile
  obtain ⟨first, words, rfl⟩ := List.exists_cons_of_ne_nil hne
  rw [List.forall_mem_cons] at hwords
  rw [Content.flowList_cons, String.toList_ofList, Lexed.flowListChars, Lexed.itemChars]
  intro c hc
  simp only [List.mem_append, List.mem_cons, List.mem_flatMap, List.mem_map, List.not_mem_nil,
    or_false] at hc
  obtain hc | rfl | rfl | rfl | hc | ⟨_, ⟨word, hmem, rfl⟩, rfl | rfl | hc⟩ | rfl := hc
  · exact hword (isWord_name field) c hc
  · decide
  · decide
  · decide
  · exact hword hwords.1 c hc
  · decide
  · decide
  · exact hword (hwords.2 word hmem) c hc
  · decide

/-- A host with the variable of one field and nothing else. -/
def fieldVariable (field : Field) (value : String) : Host where
  files := fun _ ↦ .missing
  environment := fun name ↦ if name = field.variableName then some value else none

theorem onlyVariable_fieldVariable (field : Field) (value : String) :
    OnlyVariable (fieldVariable field value) field value := by
  constructor
  · intro other
    simp only [fieldVariable, Field.variableName_injective.eq_iff]
  · have hname : fileVariable ≠ field.variableName := by cases field <;> decide
    simp only [fieldVariable, if_neg hname]
  · rfl

/-- The number `000` in a file is loaded, but as another number: the settings are usable and do not
agree with those that a variable gives. -/
theorem zero_number_lost :
    ∃ listed given : Settings,
      (load (deviceFile "extra_emergency_numbers: [000]") (some "device.yaml") none).settings =
          .ok listed ∧
        (load (fieldVariable .extraEmergencyNumbers "000") none none).settings = .ok given ∧
        listed.isUsable = true ∧ given.isUsable = true ∧
        ¬AgreeOnEmergencies .current listed given := by
  have hfile : OnlyFile (deviceFile "extra_emergency_numbers: [000]") "device.yaml"
      (Content.flowList Field.extraEmergencyNumbers.name ["000"]) :=
    ⟨fun _ ↦ rfl, rfl, _, rfl, rfl⟩
  have hnumbers : ∀ number ∈ ["000"], IsNumber number := by
    intro number hnumber
    rw [List.mem_singleton.mp hnumber]
    exact ⟨by decide, rfl⟩
  have hload :
      (load (deviceFile "extra_emergency_numbers: [000]") (some "device.yaml") none).settings =
        .ok { extraEmergencyNumbers := .list [.number 0] } := by
    have hcontents : ∀ number ∈ ["000"], wordContent number.toList = .ok (.int 0) := by
      intro number hnumber
      rw [List.mem_singleton.mp hnumber]
      rfl
    rw [load_flowList_ok hfile (by decide) (fun number hnumber ↦ (hnumbers number hnumber).isWord)
      hcontents]
    rfl
  obtain ⟨given, hgiven, husable, -, hagree⟩ :=
    (file_and_variable .current).1 ["000"] (by decide) hnumbers hfile
      (onlyVariable_fieldVariable .extraEmergencyNumbers "000")
  have hlisted : isUsable { extraEmergencyNumbers := .list [.number 0] } = true := by
    decide +kernel
  refine ⟨_, given, hload, hgiven, hlisted, husable, fun hsame ↦ ?_⟩
  have hoctal := (hagree _ hload).mp ⟨hlisted, hsame⟩ "000" List.mem_cons_self
  cases hoctal

end AssistedDialing.Settings
