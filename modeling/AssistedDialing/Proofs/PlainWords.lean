import AssistedDialing.Proofs.DigitValue
import AssistedDialing.Proofs.FlowListValue
import AssistedDialing.Proofs.Layout
import Mathlib.Data.List.TakeWhile

/-!
# What words stand for

A word that is a plain scalar is a truth value, an integer, null or a text. Digits are an integer
unless they start with a zero and one of them is above seven; with a zero before other digits below
eight they are read in base 8, so that the integer is written with other digits. Of the words of two
letters six are truth values.
-/

namespace AssistedDialing.Yaml

open Text

/-! ## The tag of a word -/

theorem isOneOf_eq_false {words : List String} {cs : List Char} (p : List Char → Bool)
    (hcs : p cs = true) (hwords : words.any (fun word ↦ p word.toList) = false) :
    isOneOf words cs = false := by
  rw [isOneOf, List.any_eq_false]
  intro word hword heq
  rw [List.any_eq_false] at hwords
  rw [← beq_iff_eq.mp heq] at hcs
  exact hwords word hword hcs

namespace IsWord

variable {cs : List Char}

theorem not_mem (h : IsWord cs) {c : Char} (hc : isWordChar c = false) : c ∉ cs := by
  intro hmem
  rw [h.chars c hmem] at hc
  exact Bool.noConfusion hc

theorem all_isWordChar (h : IsWord cs) : cs.all isWordChar = true :=
  List.all_eq_true.mpr h.chars

theorem withoutLineFeed_eq (h : IsWord cs) : withoutLineFeed cs = cs := by
  have hlast : (cs.getLast? == some '\n') = false := by
    rw [beq_eq_false_iff_ne]
    intro hlast
    exact h.not_mem (by decide) (List.mem_of_getLast? hlast)
  rw [withoutLineFeed, hlast]
  rfl

/-- A word has no sign. -/
theorem signed_eq (h : IsWord cs) : signed cs = (false, cs) := by
  obtain ⟨c, ds, rfl⟩ := List.exists_cons_of_ne_nil h.ne_nil
  have hc := h.chars c List.mem_cons_self
  have hminus : (c == '-') = false := beq_eq_false_of_isWordChar hc (by decide)
  have hsign : isAmong "+-" c = false := isAmong_eq_false_of_isWordChar hc (by decide)
  simp [signed, hsign, beq_eq_false_iff_ne.mp hminus]

theorem isFloat_eq_false (h : IsWord cs) : isFloat cs = false := by
  have hpoint : cs.contains '.' = false := by
    rw [← Bool.not_eq_true, List.contains_iff_mem]
    exact h.not_mem (by decide)
  rw [isFloat, h.signed_eq, isOneOf_eq_false (List.all · isWordChar) h.all_isWordChar (by decide),
    isOneOf_eq_false (List.all · isWordChar) h.all_isWordChar (by decide), hpoint]
  rfl

theorem isInteger_eq (h : IsWord cs) : isInteger cs = isUnsignedInteger cs := by
  rw [isInteger, h.signed_eq]

theorem isTimestamp_eq_false (h : IsWord cs) : isTimestamp cs = false := by
  have hyear : ∀ found, fixedNumber? 4 cs = some found → '-' ∉ found.2 := by
    intro found hfound hmem
    rw [fixedNumber?] at hfound
    split at hfound
    · cases hfound
    · obtain ⟨year, -, rfl⟩ := Option.map_eq_some_iff.mp hfound
      exact h.not_mem (by decide) (List.mem_of_mem_drop hmem)
  have hmark {rest : List Char} (hrest : '-' ∉ rest) : mark? '-' rest = none := by
    cases rest with
    | nil => rfl
    | cons c rest => exact if_neg fun heq ↦ hrest (by rw [heq]; exact List.mem_cons_self)
  have hnone : Timestamp.ofChars? cs = none := by
    rw [Timestamp.ofChars?]
    cases hfound : fixedNumber? 4 cs with
    | none => rfl
    | some found =>
        show (mark? '-' found.2 >>= shortNumber?).bind _ = none
        rw [hmark (hyear found hfound)]
        rfl
  rw [isTimestamp, hnone]

/-- What a word can stand for. -/
theorem ofPlain_eq (h : IsWord cs) : Tag.ofPlain (String.ofList cs) =
    if isOneOf boolWords cs then .bool else if isUnsignedInteger cs then .int
    else if isOneOf nullWords cs then .null else .str := by
  have hmark (mark : List Char) (hmark : mark.all isWordChar = false) : cs ≠ mark := by
    rintro rfl
    rw [h.all_isWordChar] at hmark
    exact Bool.noConfusion hmark
  have hmarks : isOneOf markWords cs = false :=
    isOneOf_eq_false (List.all · isWordChar) h.all_isWordChar (by decide)
  simp only [Tag.ofPlain, String.toList_ofList, h.withoutLineFeed_eq, h.isFloat_eq_false,
    h.isInteger_eq, h.isTimestamp_eq_false, if_neg (hmark ['<', '<'] (by decide)),
    if_neg (hmark ['='] (by decide)), hmarks, Bool.false_eq_true, if_false]

end IsWord

/-! ## Digits -/

section Digits

variable {cs : List Char}

theorem IsWord.of_digits (hne : cs ≠ []) (h : cs.all isAsciiDigit = true) : IsWord cs where
  ne_nil := hne
  chars := by
    intro c hc
    rw [isWordChar, List.all_eq_true.mp h c hc]
    rfl

/-- `isPadded cs` holds for digits behind a zero. -/
def isPadded : List Char → Bool
  | '0' :: ds => !ds.isEmpty
  | _ => false

/-- `isOctal cs` holds for digits behind a zero that are all below eight. -/
def isOctal : List Char → Bool
  | '0' :: ds => !ds.isEmpty && ds.all fun c ↦ c != '8' && c != '9'
  | _ => false

/-- `octalValue cs` is the integer that is written with digits in base 8. -/
def octalValue (cs : List Char) : Nat :=
  cs.foldl (fun n c ↦ 8 * n + (c.toNat - 48)) 0

theorem isAmong_octal {c : Char} (h : isAsciiDigit c = true) :
    isAmong "01234567_" c = (c != '8' && c != '9') := by
  have hdigits : Dialled.asciiDigits.all (fun c ↦
      isAmong "01234567_" c == (c != '8' && c != '9')) = true := by decide
  exact beq_iff_eq.mp (Dialled.of_isAsciiDigit hdigits h)

theorem splitOn_digits (h : cs.all isAsciiDigit = true) : cs.splitOn ':' = [cs] := by
  apply List.splitOn_eq_singleton
  intro hmem
  exact absurd (List.all_eq_true.mp h ':' hmem) (by decide)

/-- Digits behind a zero are the form of an integer when they are octal. -/
theorem isUnsignedInteger_zero {d : Char} {ds : List Char}
    (h : (d :: ds).all isAsciiDigit = true) :
    isUnsignedInteger ('0' :: d :: ds) = isOctal ('0' :: d :: ds) := by
  have hdigit : ∀ c ∈ d :: ds, isAsciiDigit c = true := List.all_eq_true.mp h
  have hd : isAsciiDigit d = true := hdigit d List.mem_cons_self
  have hbinary : d ≠ 'b' := by
    rintro rfl
    exact absurd hd (by decide)
  have hhexadecimal : d ≠ 'x' := by
    rintro rfl
    exact absurd hd (by decide)
  have hform : isUnsignedInteger ('0' :: d :: ds) = (d :: ds).all (isAmong "01234567_") := by
    simp [isUnsignedInteger, hbinary, hhexadecimal]
  have hall : (d :: ds).all (isAmong "01234567_") =
      (d :: ds).all fun c ↦ c != '8' && c != '9' := by
    rw [Bool.eq_iff_iff, List.all_eq_true, List.all_eq_true]
    exact forall₂_congr fun c hc ↦ by rw [isAmong_octal (hdigit c hc)]
  rw [hform, hall]
  rfl

/-- Digits behind another digit than zero are the form of an integer. -/
theorem isUnsignedInteger_of_ne_zero {c : Char} {ds : List Char} (hzero : c ≠ '0')
    (h : (c :: ds).all isAsciiDigit = true) : isUnsignedInteger (c :: ds) = true := by
  have hcount : startsCount (c :: ds) = true := by
    rw [List.all_cons, Bool.and_eq_true] at h
    simp [startsCount, startsDigit, h.1, hzero]
  have hall : isDigits (c :: ds) = true := by
    rw [isDigits, List.all_eq_true]
    intro d hd
    rw [List.all_eq_true.mp h d hd]
    rfl
  unfold isUnsignedInteger
  split
  · next heq => exact absurd (List.cons.inj heq).1 hzero
  · next heq => exact absurd (List.cons.inj heq).1 hzero
  · next heq => exact absurd (List.cons.inj heq).1 hzero
  · next heq => exact absurd (List.cons.inj heq).1 hzero
  · rw [splitOn_digits h]
    show (startsCount (c :: ds) && isDigits (c :: ds) && true) = true
    rw [hcount, hall]
    rfl

theorem isPadded_of_ne_zero {c : Char} {ds : List Char} (hzero : c ≠ '0') :
    isPadded (c :: ds) = false := by
  unfold isPadded
  split
  · next heq => exact absurd (List.cons.inj heq).1 hzero
  · rfl

/-- Digits are the form of an integer unless they are padded and not octal. -/
theorem isUnsignedInteger_digits (hne : cs ≠ []) (h : cs.all isAsciiDigit = true) :
    isUnsignedInteger cs = (!isPadded cs || isOctal cs) := by
  obtain ⟨c, ds, rfl⟩ := List.exists_cons_of_ne_nil hne
  by_cases hzero : c = '0'
  · subst hzero
    cases ds with
    | nil => rfl
    | cons d ds =>
        rw [List.all_cons, Bool.and_eq_true] at h
        rw [isUnsignedInteger_zero h.2]
        rfl
  · rw [isUnsignedInteger_of_ne_zero hzero h, isPadded_of_ne_zero hzero]
    rfl

theorem ofPlain_digits (hne : cs ≠ []) (h : cs.all isAsciiDigit = true) :
    Tag.ofPlain (String.ofList cs) = if !isPadded cs || isOctal cs then .int else .str := by
  have hstarts : startsDigit cs = true := by
    obtain ⟨c, ds, rfl⟩ := List.exists_cons_of_ne_nil hne
    rw [List.all_cons, Bool.and_eq_true] at h
    exact h.1
  rw [(IsWord.of_digits hne h).ofPlain_eq, isOneOf_eq_false startsDigit hstarts (by decide),
    isOneOf_eq_false startsDigit hstarts (by decide), isUnsignedInteger_digits hne h]
  simp

theorem inner_digits (h : cs.all isAsciiDigit = true) : inner cs = cs := by
  have hkept {ds : List Char} (hds : ds.all isAsciiDigit = true) :
      ds.dropWhile isAround = ds := by
    cases ds with
    | nil => rfl
    | cons d ds =>
        rw [List.all_cons, Bool.and_eq_true] at hds
        have hdigits : Dialled.asciiDigits.all (fun c ↦ !isAround c) = true := by decide
        have hd := Dialled.of_isAsciiDigit hdigits hds.1
        rw [Bool.not_eq_true'] at hd
        rw [List.dropWhile_cons, hd]
        rfl
  rw [inner, hkept h, hkept (by rwa [List.all_reverse]), List.reverse_reverse]

theorem withoutMark_digits (base : Nat) (h : cs.all isAsciiDigit = true) :
    withoutMark base cs = cs := by
  have hmarks {c : Char} (hc : isAsciiDigit c = true) :
      isAmong (if base = 2 then "bB" else if base = 8 then "oO" else if base = 16 then "xX" else "")
        c = false := by
    have hdigits : Dialled.asciiDigits.all (fun c ↦ !isAmong "bBoOxX" c) = true := by decide
    have hnone := Dialled.of_isAsciiDigit hdigits hc
    simp only [isAmong, Bool.not_eq_true', ← Bool.not_eq_true, List.contains_iff_mem] at hnone ⊢
    split_ifs <;> simp_all
  unfold withoutMark
  simp only []
  split
  · next c rest =>
    rw [List.all_cons, List.all_cons, Bool.and_eq_true, Bool.and_eq_true] at h
    rw [hmarks h.2.1, if_neg Bool.false_ne_true]
  · rfl

theorem digitIn?_digit {base : Nat} {c : Char} (h : isAsciiDigit c = true)
    (hbase : c.toNat - 48 < base) : digitIn? base c = some (c.toNat - 48) := by
  have hdigits : Dialled.asciiDigits.all
      (fun c ↦ decide (decimalValue? c = some (c.toNat - 48))) = true := by decide
  have hvalue := of_decide_eq_true (Dialled.of_isAsciiDigit hdigits h)
  rw [digitIn?, hvalue, Option.some_or, Option.filter_some, decide_eq_true hbase]
  rfl

/-- Digits that a base has are read one after the other. -/
theorem literal_digits {base : Nat} (hne : cs ≠ []) (h : cs.all isAsciiDigit = true)
    (hbase : ∀ c ∈ cs, c.toNat - 48 < base) :
    literal base cs =
      if base = 10 && DigitLimit.maxDigits < cs.length then .error (.tooManyDigits cs.length)
      else .ok (cs.foldl (fun n c ↦ base * n + (c.toNat - 48)) 0 : Nat) := by
  have hdigits : (cs.map (digitIn? base)).takeWhile Option.isSome =
      cs.map fun c ↦ some (c.toNat - 48) := by
    have hvalues : cs.map (digitIn? base) = cs.map fun c ↦ some (c.toNat - 48) :=
      List.map_congr_left fun c hc ↦ digitIn?_digit (List.all_eq_true.mp h c hc) (hbase c hc)
    rw [hvalues, List.takeWhile_eq_self_iff, List.forall_mem_map]
    exact fun c _ ↦ rfl
  rw [literal, inner_digits h, (IsWord.of_digits hne h).signed_eq]
  simp only [withoutMark_digits base h, hdigits, List.length_map, List.isEmpty_map,
    List.isEmpty_eq_false_iff.mpr hne, List.foldl_map, Option.getD_some, Nat.lt_irrefl,
    decide_false, Bool.or_false, Bool.false_eq_true, if_false]

theorem integer_eq_magnitude (hne : cs ≠ []) (h : cs.all isAsciiDigit = true) :
    integer (String.ofList cs) = magnitude cs := by
  have hfilter : cs.filter (· != '_') = cs := by
    rw [List.filter_eq_self]
    intro c hc
    rw [bne_iff_ne]
    rintro rfl
    exact absurd (List.all_eq_true.mp h '_' hc) (by decide)
  rw [integer, String.toList_ofList, hfilter, (IsWord.of_digits hne h).signed_eq]
  show (magnitude cs).map (fun n ↦ n) = _
  cases magnitude cs <;> rfl

/-- Digits behind a digit other than zero are read in base 10. -/
theorem magnitude_decimal (hne : cs ≠ []) (h : cs.all isAsciiDigit = true)
    (hzero : cs.head? ≠ some '0') : magnitude cs = literal 10 cs := by
  unfold magnitude
  split
  · exact absurd rfl hne
  · exact absurd rfl hzero
  · exact absurd rfl hzero
  · exact absurd rfl hzero
  · rw [splitOn_digits h, List.mapM_cons, List.mapM_nil]
    cases literal 10 cs with
    | error failure => rfl
    | ok n =>
        show Except.ok (60 * 0 + n) = Except.ok n
        rw [Int.mul_zero, Int.zero_add]

/-- Digits behind a zero are read in base 8. -/
theorem magnitude_octal {ds : List Char} (h : ds.all isAsciiDigit = true) :
    magnitude ('0' :: ds) = literal 8 ('0' :: ds) := by
  unfold magnitude
  split
  · next heq => cases heq
  · next heq =>
    rw [(List.cons.inj heq).2] at h
    cases h
  · next heq =>
    rw [(List.cons.inj heq).2] at h
    cases h
  · rfl
  · next hother => exact absurd rfl (hother ds)

theorem lt_ten {c : Char} (h : isAsciiDigit c = true) : c.toNat - 48 < 10 := by
  simp only [isAsciiDigit, Bool.and_eq_true, decide_eq_true_eq] at h
  omega

theorem head?_of_not_padded (hne : cs ≠ ['0']) (hpadded : isPadded cs = false) :
    cs.head? ≠ some '0' := by
  intro hzero
  obtain ⟨ds, rfl⟩ := List.head?_eq_some_iff.mp hzero
  cases ds with
  | nil => exact hne rfl
  | cons d ds => cases hpadded

/-- Digits that are not padded are the integer that is written with them, if they are not too many.
-/
theorem integer_digits (hne : cs ≠ []) (h : cs.all isAsciiDigit = true)
    (hpadded : isPadded cs = false) (hlength : cs.length ≤ DigitLimit.maxDigits) :
    ∃ n : Nat, integer (String.ofList cs) = .ok n ∧ Nat.toDigits 10 n = cs := by
  by_cases hone : cs = ['0']
  · subst hone
    exact ⟨0, rfl, rfl⟩
  · have hzero := head?_of_not_padded hone hpadded
    have hbase : ∀ c ∈ cs, c.toNat - 48 < 10 := fun c hc ↦ lt_ten (List.all_eq_true.mp h c hc)
    have hfew : (decide (10 = 10) && decide (DigitLimit.maxDigits < cs.length)) = false := by
      rw [decide_eq_true rfl, Bool.true_and, decide_eq_false (by omega)]
    refine ⟨_, ?_, toDigits_foldl hne hzero h⟩
    rw [integer_eq_magnitude hne h, magnitude_decimal hne h hzero, literal_digits hne h hbase, hfew]
    rfl

theorem integer_tooManyDigits (h : cs.all isAsciiDigit = true)
    (hpadded : isPadded cs = false) (hlength : DigitLimit.maxDigits < cs.length) :
    integer (String.ofList cs) = .error (.tooManyDigits cs.length) := by
  have hne : cs ≠ [] := by
    rintro rfl
    cases hlength
  have hone : cs ≠ ['0'] := by
    rintro rfl
    exact absurd hlength (by decide)
  have hzero := head?_of_not_padded hone hpadded
  have hbase : ∀ c ∈ cs, c.toNat - 48 < 10 := fun c hc ↦ lt_ten (List.all_eq_true.mp h c hc)
  have hmany : (decide (10 = 10) && decide (DigitLimit.maxDigits < cs.length)) = true := by
    rw [decide_eq_true rfl, Bool.true_and, decide_eq_true hlength]
  rw [integer_eq_magnitude hne h, magnitude_decimal hne h hzero, literal_digits hne h hbase, hmany]
  rfl

/-- Octal digits are an integer. -/
theorem integer_octal (h : cs.all isAsciiDigit = true) (hoctal : isOctal cs = true) :
    integer (String.ofList cs) = .ok (octalValue cs) := by
  obtain ⟨ds, rfl⟩ : ∃ ds, cs = '0' :: ds := by
    unfold isOctal at hoctal
    split at hoctal
    · exact ⟨_, rfl⟩
    · cases hoctal
  have hds : ds.all isAsciiDigit = true := by
    rw [List.all_cons, Bool.and_eq_true] at h
    exact h.2
  rw [isOctal, Bool.and_eq_true] at hoctal
  have hbase : ∀ c ∈ '0' :: ds, c.toNat - 48 < 8 := by
    intro c hc
    obtain rfl | hc := List.mem_cons.mp hc
    · decide
    · have hdigits : Dialled.asciiDigits.all
          (fun c ↦ !(c != '8' && c != '9') || decide (c.toNat - 48 < 8)) = true := by decide
      have hc := Dialled.of_isAsciiDigit hdigits (List.all_eq_true.mp hds c hc)
      have hlow := List.all_eq_true.mp hoctal.2 c ‹c ∈ ds›
      rw [hlow, Bool.not_true, Bool.false_or] at hc
      exact of_decide_eq_true hc
  have hliteral := literal_digits (List.cons_ne_nil _ _) h hbase
  rw [← magnitude_octal hds, ← integer_eq_magnitude (List.cons_ne_nil _ _) h] at hliteral
  exact hliteral

/-- Digits that are not padded are the integer that is written with them, if they are not too many.
-/
theorem wordContent_digits (hne : cs ≠ []) (h : cs.all isAsciiDigit = true)
    (hpadded : isPadded cs = false) (hlength : cs.length ≤ DigitLimit.maxDigits) :
    ∃ n : Nat, wordContent cs = .ok (.int n) ∧ Nat.toDigits 10 n = cs := by
  obtain ⟨n, hinteger, hdigits⟩ := integer_digits hne h hpadded hlength
  refine ⟨n, ?_, hdigits⟩
  rw [wordContent, ofPlain_digits hne h, hpadded]
  show (integer (String.ofList cs)).map Content.int = _
  rw [hinteger]
  rfl

theorem wordContent_tooManyDigits (h : cs.all isAsciiDigit = true) (hpadded : isPadded cs = false)
    (hlength : DigitLimit.maxDigits < cs.length) :
    wordContent cs = .error (.tooManyDigits cs.length) := by
  have hne : cs ≠ [] := by
    rintro rfl
    cases hlength
  rw [wordContent, ofPlain_digits hne h, hpadded]
  show (integer (String.ofList cs)).map Content.int = _
  rw [integer_tooManyDigits h hpadded hlength]
  rfl

/-- Octal digits are an integer, too. -/
theorem wordContent_octal (h : cs.all isAsciiDigit = true) (hoctal : isOctal cs = true) :
    wordContent cs = .ok (.int (octalValue cs)) := by
  have hne : cs ≠ [] := by
    rintro rfl
    cases hoctal
  rw [wordContent, ofPlain_digits hne h, hoctal, Bool.or_true]
  show (integer (String.ofList cs)).map Content.int = _
  rw [integer_octal h hoctal]
  rfl

/-- Padded digits that are not octal are a text. -/
theorem wordContent_padded (hne : cs ≠ []) (h : cs.all isAsciiDigit = true)
    (hpadded : isPadded cs = true) (hoctal : isOctal cs = false) :
    wordContent cs = .ok (.text (String.ofList cs)) := by
  rw [wordContent, ofPlain_digits hne h, hpadded, hoctal]
  rfl

end Digits

/-! ## Two letters -/

section Letters

variable {a b : Char}

theorem IsWord.of_letters (ha : isAsciiLetter a = true) (hb : isAsciiLetter b = true) :
    IsWord [a, b] where
  ne_nil := List.cons_ne_nil _ _
  chars := by
    intro c hc
    have hletter : isAsciiLetter c = true := by
      simp only [List.mem_cons, List.not_mem_nil, or_false] at hc
      obtain rfl | rfl := hc
      · exact ha
      · exact hb
    rw [isWordChar, hletter, Bool.or_true]
    rfl

theorem isOneOf_iff {words : List String} {cs : List Char} :
    isOneOf words cs = true ↔ String.ofList cs ∈ words := by
  rw [isOneOf, List.any_eq_true]
  constructor
  · rintro ⟨word, hword, heq⟩
    rwa [← beq_iff_eq.mp heq, String.ofList_toList]
  · exact fun h ↦ ⟨_, h, by rw [String.toList_ofList, beq_self_eq_true]⟩

theorem isUnsignedInteger_letters (ha : isAsciiLetter a = true) (hb : isAsciiLetter b = true) :
    isUnsignedInteger [a, b] = false := by
  have hzero : a ≠ '0' := by
    rintro rfl
    exact absurd ha (by decide)
  have hdigit : isAsciiDigit a = false := by
    simp only [isAsciiLetter, isAsciiDigit, Bool.or_eq_true, Bool.and_eq_true, decide_eq_true_eq,
      Bool.and_eq_false_iff, decide_eq_false_iff_not] at ha ⊢
    omega
  have hcount : startsCount [a, b] = false := by
    rw [startsCount, startsDigit, List.head?_cons, Option.any_some, hdigit]
    rfl
  unfold isUnsignedInteger
  split
  · next heq => exact absurd (List.cons.inj heq).1 hzero
  · next heq => exact absurd (List.cons.inj heq).1 hzero
  · next heq => exact absurd (List.cons.inj heq).1 hzero
  · next heq => exact absurd (List.cons.inj heq).1 hzero
  · rw [List.splitOn_eq_singleton ((IsWord.of_letters ha hb).not_mem (by decide))]
    show (startsCount [a, b] && _ && _) = false
    rw [hcount]
    rfl

theorem ofPlain_letters (ha : isAsciiLetter a = true) (hb : isAsciiLetter b = true) :
    Tag.ofPlain (String.ofList [a, b]) =
      if String.ofList [a, b] ∈ boolWords then .bool else .str := by
  have hnull : isOneOf nullWords [a, b] = false :=
    isOneOf_eq_false (List.length · == 2) rfl (by decide)
  rw [(IsWord.of_letters ha hb).ofPlain_eq, isUnsignedInteger_letters ha hb, hnull]
  simp only [isOneOf_iff, Bool.false_eq_true, if_false]

/-- Each word for a truth value has one. -/
theorem scalarContent_boolWord {word : String} (h : word ∈ boolWords) :
    ∃ value, scalarContent .bool word = .ok (.bool value) := by
  have hall : boolWords.all (fun word ↦ (boolValues.lookup (lower word)).isSome) = true := by
    decide
  obtain ⟨value, hvalue⟩ := Option.isSome_iff_exists.mp (List.all_eq_true.mp hall word h)
  refine ⟨value, ?_⟩
  simp only [scalarContent, hvalue]

theorem wordContent_boolWord (ha : isAsciiLetter a = true) (hb : isAsciiLetter b = true)
    (h : String.ofList [a, b] ∈ boolWords) :
    ∃ value, wordContent [a, b] = .ok (.bool value) := by
  rw [wordContent, ofPlain_letters ha hb, if_pos h]
  exact scalarContent_boolWord h

/-- Two letters that are no word for a truth value are a text. -/
theorem wordContent_letters (ha : isAsciiLetter a = true) (hb : isAsciiLetter b = true)
    (h : String.ofList [a, b] ∉ boolWords) :
    wordContent [a, b] = .ok (.text (String.ofList [a, b])) := by
  rw [wordContent, ofPlain_letters ha hb, if_neg h]
  rfl

end Letters

end AssistedDialing.Yaml
