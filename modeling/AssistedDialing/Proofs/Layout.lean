import AssistedDialing.Dialled.Parse
import AssistedDialing.Dialled.Validity
import AssistedDialing.Emergency.Separators

/-!
# Layouts of a number

A number can be laid out for the eye, as in `(650) 253-0000`. `Layout digits cs` says that `cs` is
such a layout of `digits`. Whatever reads a layout sees its digits only: the parser
(`Layout.read_eq`), the match with the emergency numbers of a region (`Layout.isEmergencyText_eq`)
and the removal of separators (`Layout.stripSeparators_eq`).
-/

namespace AssistedDialing.Dialled

open Text

/-- The separators that may stand anywhere in a layout. -/
def separators : List Char :=
  [' ', '-', '.', '(', ')']

/-- The digits of ASCII. -/
def asciiDigits : List Char :=
  ['0', '1', '2', '3', '4', '5', '6', '7', '8', '9']

theorem mem_asciiDigits {c : Char} (h : isAsciiDigit c = true) : c ∈ asciiDigits := by
  simp only [isAsciiDigit, Bool.and_eq_true, decide_eq_true_eq] at h
  have hvalue : ∀ value < 10, Char.ofNat (48 + value) ∈ asciiDigits := by decide
  have hchar : Char.ofNat (48 + (c.toNat - 48)) = c := by
    rw [Nat.add_sub_cancel' h.1, Char.ofNat_toNat]
  rw [← hchar]
  exact hvalue _ (by omega)

/-- What holds for the ten digits holds for every digit of ASCII. -/
theorem of_isAsciiDigit {p : Char → Bool} {c : Char} (hdigits : asciiDigits.all p = true)
    (h : isAsciiDigit c = true) : p c = true :=
  List.all_eq_true.mp hdigits c (mem_asciiDigits h)

/-- `Layout digits cs` says that `cs` is the ASCII digits `digits`, in their order, with separators
inserted anywhere. -/
inductive Layout : List Char → List Char → Prop where
  | nil : Layout [] []
  | digit {c : Char} {digits cs : List Char} (hdigit : isAsciiDigit c = true)
      (hrest : Layout digits cs) : Layout (c :: digits) (c :: cs)
  | separator {c : Char} {digits cs : List Char} (hseparator : c ∈ separators)
      (hrest : Layout digits cs) : Layout digits (c :: cs)

namespace Layout

/-- The characters of a layout. -/
def alphabet : List Char :=
  asciiDigits ++ separators

variable {digits cs : List Char} {c : Char}

theorem mem_alphabet (h : Layout digits cs) : ∀ c ∈ cs, c ∈ alphabet := by
  induction h with
  | nil => simp
  | digit hdigit _ ih =>
      exact List.forall_mem_cons.mpr ⟨List.mem_append_left _ (mem_asciiDigits hdigit), ih⟩
  | separator hseparator _ ih =>
      exact List.forall_mem_cons.mpr ⟨List.mem_append_right _ hseparator, ih⟩

/-- A character that is neither digit nor separator is in no layout. -/
theorem not_mem (h : Layout digits cs) (c : Char) (hforeign : c ∉ alphabet) : c ∉ cs :=
  fun hmem ↦ hforeign (h.mem_alphabet c hmem)

theorem ne_empty {raw : String} (h : Layout digits raw.toList) (hlong : 3 ≤ digits.length) :
    raw ≠ "" := by
  rintro rfl
  cases h with
  | nil => simp at hlong

/-- The digits of a layout are what is left without the separators. -/
theorem filter_eq (h : Layout digits cs) {p : Char → Bool} (hdigits : asciiDigits.all p = true)
    (hseparators : separators.any p = false) : cs.filter p = digits := by
  induction h with
  | nil => rfl
  | digit hdigit _ ih =>
      rw [List.filter_cons_of_pos (of_isAsciiDigit hdigits hdigit), ih]
  | separator hseparator _ ih =>
      rw [List.filter_cons_of_neg (List.any_eq_false.mp hseparators _ hseparator), ih]

theorem all_isAsciiDigit (h : Layout digits cs) : digits.all isAsciiDigit = true := by
  induction h with
  | nil => rfl
  | digit hdigit _ ih => rw [List.all_cons, hdigit, ih, Bool.and_true]
  | separator _ _ ih => exact ih

/-- A text is a layout of digits when these are what is left of it without the separators. -/
theorem layout_iff : Layout digits cs ↔
    digits.all isAsciiDigit = true ∧ cs.filter (· ∉ separators) = digits := by
  constructor
  · intro h
    exact ⟨h.all_isAsciiDigit, h.filter_eq (by decide) (by decide)⟩
  · rintro ⟨hdigits, rfl⟩
    induction cs with
    | nil => exact nil
    | cons c cs ih =>
        by_cases hseparator : c ∈ separators
        · rw [List.filter_cons_of_neg (by simpa using hseparator)] at hdigits ⊢
          exact separator hseparator (ih hdigits)
        · rw [List.filter_cons_of_pos (by simpa using hseparator)] at hdigits ⊢
          rw [List.all_cons, Bool.and_eq_true] at hdigits
          exact digit hdigits.1 (ih hdigits.2)

instance (digits cs : List Char) : Decidable (Layout digits cs) :=
  decidable_of_iff _ layout_iff.symm

/-- Dropping no digit from the start of a layout leaves a layout. -/
theorem dropWhile (h : Layout digits cs) {p : Char → Bool}
    (hdigits : asciiDigits.any p = false) : Layout digits (cs.dropWhile p) := by
  induction h with
  | nil => exact nil
  | @digit c digits cs hdigit hrest _ =>
      have hkept := List.any_eq_false.mp hdigits c (mem_asciiDigits hdigit)
      rw [List.dropWhile_cons_of_neg hkept]
      exact digit hdigit hrest
  | @separator c digits cs hseparator hrest ih =>
      cases hp : p c with
      | true => rwa [List.dropWhile_cons_of_pos hp]
      | false =>
          rw [List.dropWhile_cons_of_neg (by simp [hp])]
          exact separator hseparator hrest

theorem append {moreDigits more : List Char} (h : Layout digits cs)
    (hmore : Layout moreDigits more) : Layout (digits ++ moreDigits) (cs ++ more) := by
  induction h with
  | nil => exact hmore
  | digit hdigit _ ih => exact digit hdigit ih
  | separator hseparator _ ih => exact separator hseparator ih

theorem reverse (h : Layout digits cs) : Layout digits.reverse cs.reverse := by
  induction h with
  | nil => exact nil
  | digit hdigit _ ih =>
      rw [List.reverse_cons, List.reverse_cons]
      exact ih.append (digit hdigit nil)
  | @separator c digits cs hseparator _ ih =>
      rw [List.reverse_cons, ← List.append_nil digits.reverse]
      exact ih.append (separator hseparator nil)

end Layout

/-- Text without slashes holds one number only. -/
theorem beforeSecond_eq_self {cs : List Char} (hslash : '/' ∉ cs) (hbackslash : '\\' ∉ cs) :
    beforeSecond cs = cs := by
  induction cs with
  | nil => rfl
  | cons c cs ih =>
      rw [List.mem_cons, not_or] at hslash hbackslash
      simp [beforeSecond, Ne.symm hslash.1, Ne.symm hbackslash.1, ih hslash.2 hbackslash.2]

/-- A text is found only where its first character stands. -/
theorem splitAtFirst_eq_none {first : Char} {needle cs : List Char} (h : first ∉ cs) :
    splitAtFirst (first :: needle) cs = none := by
  induction cs with
  | nil => rfl
  | cons c cs ih =>
      rw [List.mem_cons, not_or] at h
      have hprefix : (first :: needle).isPrefixOf (c :: cs) = false := by
        simp [List.isPrefixOf, h.1]
      rw [splitAtFirst, hprefix, ih h.2]
      rfl

/-- A text without semicolons is no telephone link. -/
theorem dialled_eq_candidate {cs : List Char} (h : ';' ∉ cs) (hcandidate : ';' ∉ candidate cs) :
    dialled cs = .ok (candidate cs) := by
  have hcontext : splitAtFirst ";phone-context=".toList cs = none := splitAtFirst_eq_none h
  have hsubaddress : splitAtFirst ";isub=".toList (candidate cs) = none :=
    splitAtFirst_eq_none hcandidate
  rw [dialled, hcontext, withoutSubaddress, hsubaddress]

namespace Layout

variable {digits cs : List Char}

/-- Digits are a layout of themselves. -/
theorem of_all_isAsciiDigit (h : digits.all isAsciiDigit = true) : Layout digits digits := by
  induction digits with
  | nil => exact nil
  | cons c digits ih =>
      rw [List.all_cons, Bool.and_eq_true] at h
      exact digit h.1 (ih h.2)

theorem candidate (h : Layout digits cs) : Layout digits (Dialled.candidate cs) := by
  have hstart : Layout digits (cs.dropWhile fun c ↦ !startsNumber c) := h.dropWhile (by decide)
  have hend : Layout digits (withoutTrailing (cs.dropWhile fun c ↦ !startsNumber c)) := by
    rw [← List.reverse_reverse digits]
    exact (hstart.reverse.dropWhile (by decide)).reverse
  have hslash := hend.not_mem '/' (by decide)
  have hbackslash := hend.not_mem '\\' (by decide)
  rw [Dialled.candidate, beforeSecond_eq_self hslash hbackslash]
  exact hend

/-- A layout is no telephone link. -/
theorem dialled_eq (h : Layout digits cs) : dialled cs = .ok (Dialled.candidate cs) := by
  have hsemicolon : ';' ∉ alphabet := by decide
  exact dialled_eq_candidate (h.not_mem ';' hsemicolon) (h.candidate.not_mem ';' hsemicolon)

theorem startsWithPlus_eq (h : Layout digits cs) : startsWithPlus cs = false := by
  have hplus : alphabet.any isPlus = false := by decide
  cases cs with
  | nil => rfl
  | cons c cs =>
      have hc := List.any_eq_false.mp hplus c (h.mem_alphabet c List.mem_cons_self)
      exact eq_false_of_ne_true hc

/-- The rest of a layout continues a number that has three digits in all. -/
theorem isViableBody (h : Layout digits cs) {seen : Nat} (hlong : 3 ≤ seen + digits.length) :
    Dialled.isViableBody seen cs = true := by
  -- digits raise the count of those read, separators leave it: their sum never falls below three
  induction h generalizing seen with
  | nil => simpa [Dialled.isViableBody] using hlong
  | @digit c digits cs hdigit _ ih =>
      have hdecimal : isDecimal c = true := of_isAsciiDigit (by decide) hdigit
      have hrest : Dialled.isViableBody (seen + 1) cs = true := by
        apply ih
        rw [List.length_cons] at hlong
        omega
      simp [Dialled.isViableBody, hdecimal, hrest]
  | @separator c digits cs hseparator _ ih =>
      have hdecimals : separators.any isDecimal = false := by decide
      have hmarks : separators.all isPunctuation = true := by decide
      have hdecimal := List.any_eq_false.mp hdecimals c hseparator
      have hmark := List.all_eq_true.mp hmarks c hseparator
      simp [Dialled.isViableBody, hdecimal, hmark, ih hlong]

theorem isViable (h : Layout digits cs) (hlong : 3 ≤ digits.length) :
    Dialled.isViable cs = true := by
  have hrest : Layout digits (cs.dropWhile isPlus) := h.dropWhile (by decide)
  rw [Dialled.isViable, hrest.isViableBody (by omega), Bool.or_true]

end Layout

section Labels

variable {cs : List Char} (hlabel : ∀ c ∈ cs, c ∈ Layout.alphabet)
include hlabel

theorem head_mem_alphabet {p : Char → Bool} {c : Char} {rest : List Char}
    (h : cs.dropWhile p = c :: rest) : c ∈ Layout.alphabet := by
  have hmem : c ∈ cs.dropWhile p := by
    rw [h]
    exact List.mem_cons_self
  exact hlabel c ((List.dropWhile_sublist p).subset hmem)

/-- A label with a word has a character of the word. -/
theorem isWordLabel_eq_false {words : List (List Char)}
    (hwords : words.all (fun word ↦ word.any (· ∉ Layout.alphabet)) = true) :
    isWordLabel words cs = false := by
  have hfold : Layout.alphabet.all (fun c ↦ fold c == c) = true := by decide
  rw [isWordLabel, List.any_eq_false]
  intro word hword hmatch
  obtain ⟨c, hc, hforeign⟩ := List.any_eq_true.mp (List.all_eq_true.mp hwords word hword)
  rw [Bool.and_eq_true, List.isPrefixOf_iff_prefix] at hmatch
  obtain ⟨d, hd, rfl⟩ := List.mem_map.mp (hmatch.1.subset hc)
  have hmem : d ∈ Layout.alphabet := hlabel d ((List.dropWhile_sublist isGap).subset hd)
  -- `fold` leaves the characters of a label as they are, so the foreign one stands in the label
  rw [eq_of_beq (List.all_eq_true.mp hfold d hmem)] at hforeign
  exact of_decide_eq_true hforeign hmem

theorem isAttributeLabel_eq_false : isAttributeLabel cs = false := by
  have hfold : Layout.alphabet.any (fun c ↦ fold c == ';') = false := by decide
  cases cs with
  | nil => rfl
  | cons c cs =>
      have hc := List.any_eq_false.mp hfold c (hlabel c List.mem_cons_self)
      rw [beq_iff_eq] at hc
      simp [isAttributeLabel, hc]

theorem isPauseLabel_eq_false : isPauseLabel cs = false := by
  have hmarks : ';' ∉ Layout.alphabet ∧ ',' ∉ Layout.alphabet := by decide
  unfold isPauseLabel
  split
  · next h => exact absurd (head_mem_alphabet hlabel h) hmarks.1
  · next h => exact absurd (head_mem_alphabet hlabel h) hmarks.2
  · rfl

theorem isCommaLabel_eq_false : isCommaLabel cs = false := by
  have hcomma : ',' ∉ Layout.alphabet := by decide
  unfold isCommaLabel
  split
  · next h => exact absurd (head_mem_alphabet hlabel h) hcomma
  · rfl

end Labels

/-- Without number signs, the label is all that stands before the last digits. -/
theorem extensionParts_of_not_mem {cs : List Char} (h : '#' ∉ cs) :
    extensionParts cs =
      { label := (cs.reverse.dropWhile isDecimal).reverse
        digits := (cs.reverse.takeWhile isDecimal).reverse
        endsInSign := false } := by
  unfold extensionParts
  cases hreverse : cs.reverse with
  | nil => rfl
  | cons c rest =>
      have hne : c ≠ '#' := by
        rintro rfl
        apply h
        rw [← List.mem_reverse, hreverse]
        exact List.mem_cons_self
      simp [hne]

/-- An extension without a number sign has a label that no layout has. -/
theorem ExtensionForm.accepts_eq_false {form : ExtensionForm} {parts : ExtensionParts}
    (hform : form ∈ extensionForms) (hlabel : ∀ c ∈ parts.label, c ∈ Layout.alphabet)
    (hsign : parts.endsInSign = false) : form.accepts parts = false := by
  have hlong : longWords.all (fun word ↦ word.any (· ∉ Layout.alphabet)) = true := by decide
  have hshort : shortWords.all (fun word ↦ word.any (· ∉ Layout.alphabet)) = true := by decide
  simp only [extensionForms, List.mem_cons, List.not_mem_nil, or_false] at hform
  rcases hform with rfl | rfl | rfl | rfl | rfl | rfl
  · simp [accepts, isAttributeLabel_eq_false hlabel]
  · simp [accepts, isWordLabel_eq_false hlabel hlong]
  · simp [accepts, isWordLabel_eq_false hlabel hshort]
  · simp [accepts, hsign]
  · simp [accepts, isPauseLabel_eq_false hlabel]
  · simp [accepts, isCommaLabel_eq_false hlabel]

/-- `readDigits plan home digits` reads the phone number that is dialled as `digits` in the region
`home`. -/
def readDigits (plan : NumberingPlan) (home : Option Region) (digits : List Char) :
    Except ParseError PhoneNumber := do
  if home.isNone then throw .missingRegion
  let found ← callingCode plan home digits
  let (code, owner, national) : Nat × Option Region × List Char := match found.code with
    | some code => (code, (plan.regionsOf code).head?, found.rest)
    | none => ((home.map Region.callingCode).getD 0, home, digits)
  if national.length < leastDigits then throw ParseError.tooShort
  ofDigits code found.source none (withoutNationalPrefix owner national)

namespace Layout

variable {digits cs : List Char}

/-- No layout is an extension, so no end of one is. -/
theorem isExtension_eq (h : Layout digits cs) : isExtension cs = false := by
  have hsign : '#' ∉ cs := h.not_mem '#' (by decide)
  have hlabel : ∀ c ∈ (cs.reverse.dropWhile isDecimal).reverse, c ∈ alphabet := by
    intro c hc
    have hmem : c ∈ cs.reverse := (List.dropWhile_sublist isDecimal).subset (List.mem_reverse.mp hc)
    exact h.mem_alphabet c (List.mem_reverse.mp hmem)
  rw [isExtension, extensionParts_of_not_mem hsign, List.any_eq_false]
  intro form hform
  rw [ExtensionForm.accepts_eq_false hform hlabel rfl]
  exact Bool.false_ne_true

theorem splitExtension?_eq (h : Layout digits cs) : splitExtension? cs = none := by
  induction h with
  | nil => rfl
  | digit hdigit hrest ih =>
      rw [splitExtension?, (digit hdigit hrest).isExtension_eq, ih]
      rfl
  | separator hseparator hrest ih =>
      rw [splitExtension?, (separator hseparator hrest).isExtension_eq, ih]
      rfl

theorem digitsOnly_eq (h : Layout digits cs) : digitsOnly cs = digits := by
  induction h with
  | nil => rfl
  | @digit c digits cs hdigit _ ih =>
      have hvalues : asciiDigits.all (fun c ↦ (digitValue? c).map digitChar == some c) = true := by
        decide
      have hvalue := eq_of_beq (List.all_eq_true.mp hvalues c (mem_asciiDigits hdigit))
      rw [digitsOnly, List.filterMap_cons, hvalue]
      exact congrArg (c :: ·) ih
  | @separator c digits cs hseparator _ ih =>
      have hvalues : separators.all (fun c ↦ (digitValue? c).map digitChar == none) = true := by
        decide
      have hvalue := eq_of_beq (List.all_eq_true.mp hvalues c hseparator)
      rw [digitsOnly, List.filterMap_cons, hvalue]
      exact ih

/-- The digits of a layout are dialled. -/
theorem normalize_eq (h : Layout digits cs) : normalize cs = digits := by
  have hletters : alphabet.any isAsciiLetter = false := by decide
  have hcount : cs.countP isAsciiLetter = 0 := by
    rw [List.countP_eq_zero]
    intro c hc
    exact List.any_eq_false.mp hletters c (h.mem_alphabet c hc)
  rw [normalize, isSpelled, hcount, h.digitsOnly_eq]
  rfl

/-- Of a text without a plus sign, the calling code is separated by the digits that are dialled. -/
theorem callingCode_eq (h : Layout digits digits) {text : List Char}
    (hplus : startsWithPlus text = false) (hdialled : normalize text = digits)
    (plan : NumberingPlan) (region : Option Region) :
    callingCode plan region text = callingCode plan region digits := by
  simp only [callingCode, extractCallingCode, hplus, h.startsWithPlus_eq, hdialled, h.normalize_eq,
    Bool.false_eq_true, if_false]

/-- A text that is viable, without a plus sign and without an extension, is read by the digits that
are dialled for it. -/
theorem read_eq_readDigits (h : Layout digits digits) {raw : String} {text : List Char}
    (hshort : raw.toList.length ≤ mostCharacters) (htext : dialled raw.toList = .ok text)
    (hviable : Dialled.isViable text = true) (hplus : startsWithPlus text = false)
    (hextension : splitExtension? text = none) (hdialled : normalize text = digits)
    (plan : NumberingPlan) (region : Option String) :
    read plan raw region = readDigits plan (region.bind plan.region?) digits := by
  have hsplit : splitExtension text = (text, none) := by
    rw [splitExtension, hextension]
  rw [read, if_neg (Nat.not_lt.mpr hshort), htext]
  simp only [bind, Except.bind, hviable, hplus, hsplit, h.callingCode_eq hplus hdialled, hdialled,
    Bool.not_true, Bool.false_eq_true, Bool.not_false, Bool.and_true, if_false]
  rfl

/-- A layout of at least three digits is read by its digits. -/
theorem read_eq {raw : String} (h : Layout digits raw.toList) (hlong : 3 ≤ digits.length)
    (hshort : raw.toList.length ≤ mostCharacters) (plan : NumberingPlan)
    (region : Option String) :
    read plan raw region = readDigits plan (region.bind plan.region?) digits := by
  have hcandidate := h.candidate
  have hdigits := of_all_isAsciiDigit h.all_isAsciiDigit
  exact hdigits.read_eq_readDigits hshort h.dialled_eq (hcandidate.isViable hlong)
    hcandidate.startsWithPlus_eq hcandidate.splitExtension?_eq hcandidate.normalize_eq plan region

/-- A layout is matched with emergency numbers by its digits. -/
theorem isEmergencyText_eq {raw : String} (h : Layout digits raw.toList) (plan : NumberingPlan)
    (region : String) : plan.isEmergencyText raw region = plan.isEmergency region digits := by
  rw [NumberingPlan.isEmergencyText, h.candidate.startsWithPlus_eq, h.candidate.digitsOnly_eq]
  rfl

theorem stripSeparators_eq {raw : String} (h : Layout digits raw.toList) :
    Emergency.stripSeparators raw = String.ofList digits := by
  rw [Emergency.stripSeparators, h.filter_eq (by decide) (by decide)]

end Layout

end AssistedDialing.Dialled
