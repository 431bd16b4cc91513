import AssistedDialing.Emergency.Classifier
import AssistedDialing.NumberingPlan.World
import AssistedDialing.Proofs.Layout
import Mathlib.Data.List.Basic

/-!
# Numbers spelled on the keypad

A number can be written with letters, as in `1-800-FLOWERS`; dialling it means pressing the keys on
which the letters stand. The parser reads such a text so (`IsKeyText.read_eq`), but a classifier of
emergency numbers takes letters for separators and sees only the digits
(`isEmergency_of_isKeyText`). `isEmergency_keyed_iff` says when a text is classified as what is
dialled for it.
-/

namespace AssistedDialing

namespace Dialled

open Text

/-- The keys of a telephone that have letters, with their letters. -/
def keypad : List (Char × List Char) :=
  [('2', ['a', 'b', 'c']), ('3', ['d', 'e', 'f']), ('4', ['g', 'h', 'i']), ('5', ['j', 'k', 'l']),
   ('6', ['m', 'n', 'o']), ('7', ['p', 'q', 'r', 's']), ('8', ['t', 'u', 'v']),
   ('9', ['w', 'x', 'y', 'z'])]

/-- `onKey c` is the key that a letter stands on, in either case. Other characters are left as they
are. -/
def onKey (c : Char) : Char :=
  ((keypad.find? fun key ↦ key.2.contains c.toLower).map Prod.fst).getD c

/-- `keyed raw` is `raw` with every letter replaced by its key. -/
def keyed (raw : String) : String :=
  String.ofList (raw.toList.map onKey)

/-- `digitsIn raw` is the digits in a text, without its letters and separators. -/
def digitsIn (raw : String) : List Char :=
  raw.toList.filter isAsciiDigit

/-- The letters on the keys, in both cases. -/
def keyLetters : List Char :=
  keypad.flatMap fun key ↦ key.2 ++ key.2.map Char.toUpper

theorem mem_keyLetters {c : Char} (h : isAsciiLetter c = true) : c ∈ keyLetters := by
  have hcodes : (List.range 128).all (fun code ↦ !isAsciiLetter (Char.ofNat code) ||
      keyLetters.contains (Char.ofNat code)) = true := by
    decide
  have hascii : c.toNat < 128 := by
    simp only [isAsciiLetter, Bool.or_eq_true, Bool.and_eq_true, decide_eq_true_eq] at h
    omega
  have hmem := List.all_eq_true.mp hcodes c.toNat (List.mem_range.mpr hascii)
  rw [Char.ofNat_toNat, h] at hmem
  exact List.contains_iff_mem.mp hmem

/-- The characters of a text for the keypad. -/
def keyChars : List Char :=
  asciiDigits ++ keyLetters ++ [' ', '-']

/-- What holds for the listed characters holds for every character of a text for the keypad. -/
theorem of_mem_keyChars {p : Char → Bool} {c : Char} (hkeys : keyChars.all p = true)
    (h : c ∈ keyChars) : p c = true :=
  List.all_eq_true.mp hkeys c h

/-- A character for the keypad is a digit, a letter or a separator. -/
theorem keyChars_cases {c : Char} (h : c ∈ keyChars) :
    (isAsciiDigit c = true ∧ isAsciiLetter c = false ∧ isAsciiDigit (onKey c) = true) ∨
      (isAsciiDigit c = false ∧ isAsciiLetter c = true ∧ isAsciiDigit (onKey c) = true) ∨
      (isAsciiDigit c = false ∧ isAsciiLetter c = false ∧ isAsciiDigit (onKey c) = false) := by
  have hkinds : keyChars.all (fun c ↦
      isAsciiDigit (onKey c) == (isAsciiDigit c || isAsciiLetter c) &&
        !(isAsciiDigit c && isAsciiLetter c)) = true := by
    decide
  have hkind := of_mem_keyChars hkinds h
  rw [Bool.and_eq_true, beq_iff_eq] at hkind
  obtain ⟨hkey, hone⟩ := hkind
  rw [hkey]
  revert hone
  cases isAsciiDigit c <;> cases isAsciiLetter c <;> decide

theorem onKey_of_isAsciiDigit {c : Char} (h : isAsciiDigit c = true) : onKey c = c := by
  have hdigits : asciiDigits.all (fun c ↦ onKey c == c) = true := by decide
  exact eq_of_beq (List.all_eq_true.mp hdigits c (mem_asciiDigits h))

section OverKeypad

variable {cs : List Char}

/-- The digits in a text are among those that are dialled for it, in their order. -/
theorem filter_sublist_onKey (h : ∀ c ∈ cs, c ∈ keyChars) :
    (cs.filter isAsciiDigit).Sublist ((cs.map onKey).filter isAsciiDigit) := by
  induction cs with
  | nil => exact .slnil
  | cons c cs ih =>
      obtain ⟨hc, hcs⟩ := List.forall_mem_cons.mp h
      rw [List.map_cons]
      rcases keyChars_cases hc with ⟨hdigit, -, hkey⟩ | ⟨hdigit, -, hkey⟩ | ⟨hdigit, -, hkey⟩
      · rw [List.filter_cons_of_pos hdigit, List.filter_cons_of_pos hkey,
          onKey_of_isAsciiDigit hdigit]
        exact (ih hcs).cons_cons c
      · rw [List.filter_cons_of_neg (by simp [hdigit]), List.filter_cons_of_pos hkey]
        exact (ih hcs).cons _
      · rw [List.filter_cons_of_neg (by simp [hdigit]), List.filter_cons_of_neg (by simp [hkey])]
        exact ih hcs

/-- Every letter is one more digit to dial. -/
theorem length_filter_onKey (h : ∀ c ∈ cs, c ∈ keyChars) :
    ((cs.map onKey).filter isAsciiDigit).length =
      (cs.filter isAsciiDigit).length + cs.countP isAsciiLetter := by
  induction cs with
  | nil => rfl
  | cons c cs ih =>
      obtain ⟨hc, hcs⟩ := List.forall_mem_cons.mp h
      rw [List.map_cons]
      rcases keyChars_cases hc with ⟨hdigit, hletter, hkey⟩ | ⟨hdigit, hletter, hkey⟩ |
        ⟨hdigit, hletter, hkey⟩
      · rw [List.filter_cons_of_pos hkey, List.filter_cons_of_pos hdigit,
          List.countP_cons_of_neg (by simp [hletter]), List.length_cons, List.length_cons, ih hcs]
        omega
      · rw [List.filter_cons_of_pos hkey, List.filter_cons_of_neg (by simp [hdigit]),
          List.countP_cons_of_pos hletter, List.length_cons, ih hcs]
        omega
      · rw [List.filter_cons_of_neg (by simp [hkey]), List.filter_cons_of_neg (by simp [hdigit]),
          List.countP_cons_of_neg (by simp [hletter]), ih hcs]

/-- Where letters are dropped, the digits are what is left. -/
theorem digitsOnly_eq_filter (h : ∀ c ∈ cs, c ∈ keyChars) :
    digitsOnly cs = cs.filter isAsciiDigit := by
  have hvalues : keyChars.all (fun c ↦
      (digitValue? c).map digitChar == Option.guard isAsciiDigit c) = true := by
    decide
  rw [digitsOnly, List.filterMap_congr fun c hc ↦ eq_of_beq (of_mem_keyChars hvalues (h c hc))]
  exact congrFun List.filterMap_eq_filter cs

/-- Where letters are spelled, the keys are what is left. -/
theorem normalize_eq_filter (h : ∀ c ∈ cs, c ∈ keyChars) (hspells : 3 ≤ cs.countP isAsciiLetter) :
    normalize cs = (cs.map onKey).filter isAsciiDigit := by
  have hkeys : keyChars.all (fun c ↦ key? c == Option.guard isAsciiDigit (onKey c)) = true := by
    decide
  have hline : cs.contains '\n' = false := by
    rw [← Bool.not_eq_true, List.contains_iff_mem]
    intro hmem
    exact absurd (h _ hmem) (by decide)
  have hspelled : isSpelled cs = true := by
    rw [isSpelled, decide_eq_true hspells, hline]
    rfl
  rw [normalize, if_pos hspelled,
    List.filterMap_congr fun c hc ↦ eq_of_beq (of_mem_keyChars hkeys (h c hc)),
    ← List.filterMap_eq_filter, List.filterMap_map]
  rfl

/-- What is not looked for is dropped unnoticed. -/
theorem filter_dropWhile {p q : Char → Bool} (h : ∀ c ∈ cs, p c = true → q c = false) :
    (cs.dropWhile q).filter p = cs.filter p := by
  induction cs with
  | nil => rfl
  | cons c cs ih =>
      obtain ⟨hc, hcs⟩ := List.forall_mem_cons.mp h
      cases hdropped : q c with
      | true =>
          have hunseen : ¬ p c = true := fun hp ↦ by simp [hc hp] at hdropped
          rw [List.dropWhile_cons_of_pos hdropped, List.filter_cons_of_neg hunseen, ih hcs]
      | false => rw [List.dropWhile_cons_of_neg (by simp [hdropped])]

theorem filter_withoutTrailing {p : Char → Bool}
    (h : ∀ c ∈ cs, p c = true → isTrailing c = false) :
    (withoutTrailing cs).filter p = cs.filter p := by
  rw [withoutTrailing, List.filter_reverse,
    filter_dropWhile fun c hc ↦ h c (List.mem_reverse.mp hc), List.filter_reverse,
    List.reverse_reverse]

theorem mem_of_mem_withoutTrailing {c : Char} (h : c ∈ withoutTrailing cs) : c ∈ cs := by
  have hmem := (List.dropWhile_sublist isTrailing).subset (List.mem_reverse.mp h)
  exact List.mem_reverse.mp hmem

end OverKeypad

/-- `isKeyChar c` holds for digits, letters, spaces and hyphens. -/
def isKeyChar (c : Char) : Bool :=
  isAsciiDigit c || isAsciiLetter c || c == ' ' || c == '-'

/-- `IsKeyText raw` says that `raw` is digits, letters, spaces and hyphens, beginning with a digit.
-/
structure IsKeyText (raw : String) : Prop where
  starts : raw.toList.head?.any isAsciiDigit = true
  keys : raw.toList.all isKeyChar = true

namespace IsKeyText

variable {raw : String}

theorem exists_cons (h : IsKeyText raw) :
    ∃ first rest, raw.toList = first :: rest ∧ isAsciiDigit first = true := by
  have hstarts := h.starts
  cases hchars : raw.toList with
  | nil =>
      rw [hchars] at hstarts
      cases hstarts
  | cons first rest =>
      rw [hchars, List.head?_cons, Option.any_some] at hstarts
      exact ⟨first, rest, rfl, hstarts⟩

theorem mem_keyChars (h : IsKeyText raw) : ∀ c ∈ raw.toList, c ∈ keyChars := by
  intro c hc
  have hkey := List.all_eq_true.mp h.keys c hc
  rw [isKeyChar, Bool.or_eq_true, Bool.or_eq_true, Bool.or_eq_true, beq_iff_eq, beq_iff_eq] at hkey
  rw [keyChars, List.mem_append, List.mem_append]
  rcases hkey with ((hdigit | hletter) | rfl) | rfl
  · exact .inl (.inl (mem_asciiDigits hdigit))
  · exact .inl (.inr (mem_keyLetters hletter))
  · exact .inr List.mem_cons_self
  · exact .inr (List.mem_cons_of_mem _ List.mem_cons_self)

/-- What is dialled for a text is a text for the keypad again. -/
theorem isKeyText_keyed (h : IsKeyText raw) : IsKeyText (keyed raw) where
  starts := by
    obtain ⟨first, rest, hchars, hdigit⟩ := h.exists_cons
    rw [keyed, String.toList_ofList, hchars, List.map_cons, List.head?_cons, Option.any_some,
      onKey_of_isAsciiDigit hdigit, hdigit]
  keys := by
    have hkeys : keyChars.all (fun c ↦ isKeyChar (onKey c)) = true := by decide
    rw [keyed, String.toList_ofList, List.all_map, List.all_eq_true]
    exact fun c hc ↦ of_mem_keyChars hkeys (h.mem_keyChars c hc)

theorem length_digitsIn_pos (h : IsKeyText raw) : 0 < (digitsIn raw).length := by
  obtain ⟨first, rest, hchars, hdigit⟩ := h.exists_cons
  rw [digitsIn, hchars, List.filter_cons_of_pos hdigit, List.length_cons]
  exact Nat.succ_pos _

/-- All of the text may be a number, save what trails it. -/
theorem candidate_eq (h : IsKeyText raw) : candidate raw.toList = withoutTrailing raw.toList := by
  have hforeign (c : Char) (hc : c ∉ keyChars) : c ∉ withoutTrailing raw.toList :=
    fun hmem ↦ hc (h.mem_keyChars c (mem_of_mem_withoutTrailing hmem))
  have hstart : raw.toList.dropWhile (fun c ↦ !startsNumber c) = raw.toList := by
    obtain ⟨first, rest, hchars, hdigit⟩ := h.exists_cons
    have hnumber : startsNumber first = true := of_isAsciiDigit (by decide) hdigit
    rw [hchars]
    exact List.dropWhile_cons_of_neg (by simp [hnumber])
  rw [candidate, hstart,
    beforeSecond_eq_self (hforeign '/' (by decide)) (hforeign '\\' (by decide))]

theorem mem_keyChars_of_candidate (h : IsKeyText raw) :
    ∀ c ∈ candidate raw.toList, c ∈ keyChars := by
  intro c hc
  rw [h.candidate_eq] at hc
  exact h.mem_keyChars c (mem_of_mem_withoutTrailing hc)

/-- Only spaces and hyphens trail the number in a text. -/
theorem filter_candidate (h : IsKeyText raw) {p : Char → Bool} (hspace : p ' ' = false)
    (hhyphen : p '-' = false) : (candidate raw.toList).filter p = raw.toList.filter p := by
  have hends : keyChars.all (fun c ↦ !isTrailing c || c == ' ' || c == '-') = true := by
    decide
  rw [h.candidate_eq]
  apply filter_withoutTrailing
  intro c hc hp
  have hend := of_mem_keyChars hends (h.mem_keyChars c hc)
  rw [Bool.or_eq_true, Bool.or_eq_true, Bool.not_eq_true', beq_iff_eq, beq_iff_eq] at hend
  rcases hend with (hend | rfl) | rfl
  · exact hend
  · exact absurd hp (by simp [hspace])
  · exact absurd hp (by simp [hhyphen])

theorem startsWithPlus_candidate (h : IsKeyText raw) :
    startsWithPlus (candidate raw.toList) = false := by
  have hplus : keyChars.any isPlus = false := by decide
  cases hchars : candidate raw.toList with
  | nil => rfl
  | cons c cs =>
      have hmem : c ∈ keyChars := h.mem_keyChars_of_candidate c (hchars ▸ List.mem_cons_self)
      exact Bool.eq_false_iff.mpr (List.any_eq_false.mp hplus c hmem)

/-! ### What the parser reads -/

/-- A text with at least three letters is dialled by its keys. -/
theorem normalize_candidate (h : IsKeyText raw) (hspells : 3 ≤ raw.toList.countP isAsciiLetter) :
    normalize (candidate raw.toList) = digitsIn (keyed raw) := by
  have hletters : (candidate raw.toList).countP isAsciiLetter =
      raw.toList.countP isAsciiLetter := by
    rw [List.countP_eq_length_filter, List.countP_eq_length_filter, h.filter_candidate rfl rfl]
  rw [normalize_eq_filter h.mem_keyChars_of_candidate (hletters ▸ hspells), digitsIn, keyed,
    String.toList_ofList, List.filter_map, List.filter_map, h.filter_candidate rfl rfl]

/-- A text that looks like a number without an extension is read as what is dialled for it. -/
theorem read_eq (h : IsKeyText raw) (hspells : 3 ≤ raw.toList.countP isAsciiLetter)
    (hshort : raw.toList.length ≤ mostCharacters) (hviable : isViable (candidate raw.toList) = true)
    (hextension : splitExtension? (candidate raw.toList) = none) (plan : NumberingPlan)
    (region : Option String) :
    read plan raw region =
      readDigits plan (region.bind plan.region?) (digitsIn (keyed raw)) := by
  have hdigits : (digitsIn (keyed raw)).all isAsciiDigit = true :=
    List.all_eq_true.mpr fun c hc ↦ (List.mem_filter.mp hc).2
  have hsemicolon : ';' ∉ keyChars := by decide
  have htext := dialled_eq_candidate (fun hmem ↦ hsemicolon (h.mem_keyChars _ hmem))
    fun hmem ↦ hsemicolon (h.mem_keyChars_of_candidate _ hmem)
  exact (Layout.of_all_isAsciiDigit hdigits).read_eq_readDigits hshort htext hviable
    h.startsWithPlus_candidate hextension (h.normalize_candidate hspells) plan region

/-! ### What a classifier recognises -/

/-- A text is matched with the emergency numbers of a region by its digits. -/
theorem isEmergencyText_eq (h : IsKeyText raw) (plan : NumberingPlan) (region : String) :
    plan.isEmergencyText raw region = plan.isEmergency region (digitsIn raw) := by
  rw [NumberingPlan.isEmergencyText, h.startsWithPlus_candidate,
    digitsOnly_eq_filter h.mem_keyChars_of_candidate, h.filter_candidate rfl rfl]
  rfl

theorem stripSeparators_eq (h : IsKeyText raw) :
    Emergency.stripSeparators raw = String.ofList (digitsIn raw) := by
  have hdialled : keyChars.all (fun c ↦ Emergency.isDialled c == isAsciiDigit c) = true := by
    decide
  rw [Emergency.stripSeparators, digitsIn, List.filter_congr fun c hc ↦
    eq_of_beq (of_mem_keyChars hdialled (h.mem_keyChars c hc))]

end IsKeyText

end Dialled

namespace Emergency.Classifier

open Dialled Text

/-- `classifier.Recognises plan digits` says that `digits` is one of the numbers of a classifier or
an emergency number of the region of the SIM. -/
def Recognises (plan : NumberingPlan) (classifier : Classifier) (digits : List Char) : Prop :=
  String.ofList digits ∈ classifier.numbers ∨
    ∃ region ∈ classifier.simRegion, plan.isEmergency region digits = true

variable {raw : String}

/-- A classifier recognises a text by its digits, whatever letters it has. -/
theorem isEmergency_of_isKeyText (h : IsKeyText raw) (plan : NumberingPlan)
    (classifier : Classifier) :
    classifier.isEmergency plan raw = true ↔ classifier.Recognises plan (digitsIn raw) := by
  rw [isEmergency, Recognises, h.stripSeparators_eq, Bool.or_eq_true, List.contains_iff_mem]
  refine or_congr_right ?_
  cases classifier.simRegion with
  | none => simp [inRegion]
  | some region => simp [inRegion, h.isEmergencyText_eq]

/-- A classifier takes the letters of a number for separators, where the parser reads the keys on
which they stand. So a text with at least three letters is dialled as more digits than a classifier
sees, and it is classified as what is dialled for it exactly when both or neither of the two are
recognised. Where no emergency number has more than three digits, it is so exactly when the text is
not taken for an emergency number. -/
theorem isEmergency_keyed_iff (plan : NumberingPlan) (classifier : Classifier)
    (h : IsKeyText raw) (hspells : 3 ≤ raw.toList.countP isAsciiLetter) :
    let seen := digitsIn raw
    let pressed := digitsIn (keyed raw)
    (raw.toList.length ≤ mostCharacters → isViable (candidate raw.toList) = true →
      splitExtension? (candidate raw.toList) = none → ∀ region,
        read plan raw region = readDigits plan (region.bind plan.region?) pressed) ∧
      seen.Sublist pressed ∧ seen.length + 3 ≤ pressed.length ∧
      (classifier.isEmergency plan raw = true ↔ classifier.Recognises plan seen) ∧
      (classifier.isEmergency plan (keyed raw) = true ↔ classifier.Recognises plan pressed) ∧
      (classifier.isEmergency plan raw = classifier.isEmergency plan (keyed raw) ↔
        (classifier.Recognises plan seen ↔ classifier.Recognises plan pressed)) ∧
      ((∀ digits, classifier.Recognises plan digits → digits.length ≤ 3) →
        (classifier.isEmergency plan raw = classifier.isEmergency plan (keyed raw) ↔
          classifier.isEmergency plan raw = false)) := by
  intro seen pressed
  have hseen := isEmergency_of_isKeyText h plan classifier
  have hpressed := isEmergency_of_isKeyText h.isKeyText_keyed plan classifier
  have hkeys : pressed = (raw.toList.map onKey).filter isAsciiDigit := by
    show (keyed raw).toList.filter isAsciiDigit = _
    rw [keyed, String.toList_ofList]
  have hlonger : seen.length + 3 ≤ pressed.length := by
    rw [hkeys, length_filter_onKey h.mem_keyChars]
    exact Nat.add_le_add_left hspells _
  refine ⟨fun hshort hviable hextension ↦ h.read_eq hspells hshort hviable hextension plan,
    hkeys ▸ filter_sublist_onKey h.mem_keyChars, hlonger, hseen, hpressed, ?_, ?_⟩
  · rw [Bool.eq_iff_iff, hseen, hpressed]
  · intro hmost
    have hlong : ¬ classifier.Recognises plan pressed := by
      intro hrecognised
      have hfew := hmost _ hrecognised
      have hsome : 0 < seen.length := h.length_digitsIn_pos
      omega
    rw [Bool.eq_false_iff.mpr (mt hpressed.mp hlong)]

/-- `911ABC` is dialled as `911222`, which is no emergency number, but it is taken for `911`. -/
theorem isEmergency_nineOneOneAbc :
    let classifier : Classifier := .ofRegions none none []
    IsKeyText "911ABC" ∧ 3 ≤ "911ABC".toList.countP isAsciiLetter ∧
      keyed "911ABC" = "911222" ∧
      (∀ region, read .current "911ABC" region =
        readDigits .current (region.bind NumberingPlan.current.region?) "911222".toList) ∧
      classifier.isEmergency .current "911ABC" = true ∧
      classifier.isEmergency .current "911222" = false := by
  intro classifier
  have htext : IsKeyText "911ABC" := ⟨by decide, by decide⟩
  have hspells : 3 ≤ "911ABC".toList.countP isAsciiLetter := by decide
  have hkeyed : keyed "911ABC" = "911222" := by decide
  obtain ⟨hread, -, -, -, -, -, hlaw⟩ := isEmergency_keyed_iff .current classifier htext hspells
  have hmost : ∀ digits, classifier.Recognises .current digits → digits.length ≤ 3 := by
    rintro digits (hglobal | ⟨region, hregion, -⟩)
    · have hlengths : ∀ number ∈ globalNumbers, number.toList.length ≤ 3 := by decide
      simpa using hlengths _ hglobal
    · cases hregion
  have htaken : classifier.isEmergency .current "911ABC" = true := by decide
  rw [hkeyed, htaken] at hlaw
  have hdiffers : ¬ true = classifier.isEmergency .current "911222" :=
    mt (hlaw hmost).mp (by decide)
  exact ⟨htext, hspells, hkeyed, hread (by decide) (by decide) (by decide), htaken,
    Bool.eq_false_iff.mpr (Ne.symm hdiffers)⟩

end Emergency.Classifier

end AssistedDialing
