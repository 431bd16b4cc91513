import AssistedDialing.Proofs.CountryTable
import AssistedDialing.Text.Digit

/-!
# Entries and queries of two letters

The rule for a table of countries is that entries of two ASCII letters count and others are
reported. Codes are compared in upper case, though, and the upper case of some characters beyond
ASCII consists of ASCII letters: of one for the dotless i and the long s, of two for the sharp s and
some ligatures. So a text can be disguised: it is not two letters, but its upper case is.
`isWellFormed_normalize` says over the whole case mapping that there is no further exception.
`only_letters_count_iff` says what the rule is with these texts, and that it holds as it is meant
exactly where none occurs.
-/

namespace AssistedDialing.Country

open Text

/-! ## Characters whose upper case consists of capital letters -/

/-- `isCapitals count cs` holds for `count` capital letters. -/
def isCapitals (count : Nat) (cs : List Char) : Bool :=
  cs.length == count && cs.all isCapital

/-- The characters beyond ASCII whose upper case is one capital letter: dotless i and long s. -/
def strayLetters : List Char :=
  ['\u0131', '\u017f']

/-- The characters whose upper case is two capital letters: sharp s and the ligatures of ff, fi, fl,
long s with t, and st. -/
def letterPairs : List Char :=
  ['\u00df', '\ufb00', '\ufb01', '\ufb02', '\ufb05', '\ufb06']

/-- `isCapitalCode code` holds for the code points of the capital letters. -/
def isCapitalCode (code : Nat) : Bool :=
  65 ≤ code && code ≤ 90

/-- A code point whose character is a capital letter is that of the letter. -/
theorem isCapital_ofNat {code : Nat} (h : isCapital (Char.ofNat code) = true) :
    isCapitalCode code = true := by
  obtain hsame | hzero := toNat_ofNat_eq_or code
  · rwa [isCapital, hsame] at h
  · rw [isCapital, hzero] at h
    cases h

/-- Of the characters with one character as upper case, only the stray letters have a capital one.
-/
theorem upperRuns_to_capitals :
    (upperRuns.flatMap fun run ↦ run.codes.filter fun code ↦ isCapitalCode (run.apply code)) =
      strayLetters.map Char.toNat := by
  decide

/-- Of the characters with several characters as upper case, only the letter pairs have two capital
ones, and none has less than two. -/
theorem upperExpansions_to_capitals :
    (upperExpansions.filter fun expansion ↦
      expansion.2.length == 2 && expansion.2.all isCapitalCode).map Prod.fst =
        letterPairs.map Char.toNat ∧
      ∀ expansion ∈ upperExpansions, 2 ≤ expansion.2.length := by
  decide

theorem isCapitals_upperChar_ascii :
    ∀ code < 0x80, isCapitals 1 (upperChar (Char.ofNat code)) = isAsciiLetter (Char.ofNat code) ∧
      isCapitals 2 (upperChar (Char.ofNat code)) = false := by
  decide

theorem isCapitals_upperChar_listed :
    (strayLetters.all fun c ↦ isCapitals 1 (upperChar c)) = true ∧
      (letterPairs.all fun c ↦ isCapitals 2 (upperChar c)) = true := by
  decide

theorem mem_of_toNat_mem {c : Char} {cs : List Char} (h : c.toNat ∈ cs.map Char.toNat) :
    c ∈ cs := by
  rwa [List.mem_map_of_injective fun _ _ ↦ Char.toNat_inj.mp] at h

/-- Beyond ASCII, the upper case of a character is its expansion or one character. -/
theorem upperChar_beyond_ascii {c : Char} (h : ¬ c.toNat < 0x80) :
    (∃ codes, (c.toNat, codes) ∈ upperExpansions ∧ upperChar c = codes.map Char.ofNat) ∨
      upperChar c = [Char.ofNat (mapSingle upperRuns c.toNat)] := by
  cases hlookup : upperExpansions.lookup c.toNat with
  | some codes => exact .inl ⟨codes, mem_of_lookup hlookup, by simp [upperChar, h, hlookup]⟩
  | none => exact .inr (by simp [upperChar, h, hlookup])

/-- The upper case of a character is one capital letter for the letters and the stray letters. -/
theorem isCapitals_one_upperChar (c : Char) :
    isCapitals 1 (upperChar c) = (isAsciiLetter c || strayLetters.contains c) := by
  by_cases hascii : c.toNat < 0x80
  · have hstray : strayLetters.contains c = false := by
      rw [← Bool.not_eq_true, List.contains_iff_mem, strayLetters, List.mem_pair]
      rintro (rfl | rfl) <;> exact absurd hascii (by decide)
    have hletter := (isCapitals_upperChar_ascii c.toNat hascii).1
    rw [Char.ofNat_toNat] at hletter
    rw [hletter, hstray, Bool.or_false]
  · have hletter : isAsciiLetter c = false := by
      simp only [isAsciiLetter, Bool.or_eq_false_iff, Bool.and_eq_false_iff,
        decide_eq_false_iff_not]
      omega
    rw [hletter, Bool.false_or, Bool.eq_iff_iff, List.contains_iff_mem]
    refine ⟨fun h ↦ ?_, List.all_eq_true.mp isCapitals_upperChar_listed.1 c⟩
    rw [isCapitals, Bool.and_eq_true, beq_iff_eq] at h
    obtain ⟨codes, hmem, hcodes⟩ | hsingle := upperChar_beyond_ascii hascii
    · have hlength : 2 ≤ codes.length := upperExpansions_to_capitals.2 _ hmem
      rw [hcodes, List.length_map] at h
      omega
    · rw [hsingle, List.all_cons, Bool.and_eq_true] at h
      have hcode := isCapital_ofNat h.2.1
      apply mem_of_toNat_mem
      rw [← upperRuns_to_capitals]
      -- the character is no capital letter itself, so it is in one of the runs
      obtain hself | ⟨run, hrun, hmem, happly⟩ := mapSingle_cases upperRuns c.toNat
      · rw [hself, isCapitalCode, Bool.and_eq_true, decide_eq_true_eq, decide_eq_true_eq] at hcode
        omega
      · rw [happly] at hcode
        exact List.mem_flatMap.mpr ⟨run, hrun, List.mem_filter.mpr ⟨hmem, hcode⟩⟩

/-- The upper case of a character is two capital letters for the letter pairs. -/
theorem isCapitals_two_upperChar (c : Char) :
    isCapitals 2 (upperChar c) = letterPairs.contains c := by
  rw [Bool.eq_iff_iff, List.contains_iff_mem]
  refine ⟨fun h ↦ ?_, List.all_eq_true.mp isCapitals_upperChar_listed.2 c⟩
  have hascii : ¬ c.toNat < 0x80 := by
    intro hascii
    have hnone := (isCapitals_upperChar_ascii c.toNat hascii).2
    rw [Char.ofNat_toNat, h] at hnone
    cases hnone
  obtain ⟨codes, hmem, hcodes⟩ | hsingle := upperChar_beyond_ascii hascii
  · rw [hcodes, isCapitals, List.length_map, List.all_map, Bool.and_eq_true] at h
    have hcapital : codes.all isCapitalCode = true :=
      List.all_eq_true.mpr fun code hcode ↦ isCapital_ofNat (List.all_eq_true.mp h.2 code hcode)
    apply mem_of_toNat_mem
    rw [← upperExpansions_to_capitals.1]
    refine List.mem_map.mpr ⟨_, List.mem_filter.mpr ⟨hmem, ?_⟩, rfl⟩
    rw [h.1, hcapital]
    rfl
  · rw [hsingle] at h
    cases h

/-! ## Texts -/

/-- `isTwoLetters text` holds for texts of two ASCII letters. -/
def isTwoLetters (text : String) : Bool :=
  match text.toList with
  | [a, b] => isAsciiLetter a && isAsciiLetter b
  | _ => false

/-- `isDisguised text` holds for texts that are not two letters, although their upper case is: a
letter pair, or letters with a stray letter among them. -/
def isDisguised (text : String) : Bool :=
  match text.toList with
  | [c] => letterPairs.contains c
  | [a, b] =>
      (isAsciiLetter a || strayLetters.contains a) &&
        (isAsciiLetter b || strayLetters.contains b) &&
        !(isAsciiLetter a && isAsciiLetter b)
  | _ => false

theorem isWellFormed_eq (code : String) : isWellFormed code = isCapitals 2 code.toList := by
  unfold isWellFormed
  split
  · next a b hcode => simp [hcode, isCapitals]
  · next hother =>
    rw [Eq.comm, ← Bool.not_eq_true, isCapitals, Bool.and_eq_true, beq_iff_eq, List.length_eq_two]
    rintro ⟨⟨a, b, hcode⟩, -⟩
    exact hother a b hcode

/-- The upper case of a text is two capital letters when that of its only character is, or when it
has two characters and the upper case of each is one. -/
theorem isCapitals_upperChars (cs : List Char) :
    isCapitals 2 (upperChars cs) = match cs with
      | [c] => isCapitals 2 (upperChar c)
      | [a, b] => isCapitals 1 (upperChar a) && isCapitals 1 (upperChar b)
      | _ => false := by
  match cs with
  | [] => rfl
  | [c] => simp [upperChars]
  | [a, b] =>
      have ha := List.length_pos_iff.mpr (upperChar_ne_nil a)
      have hb := List.length_pos_iff.mpr (upperChar_ne_nil b)
      simp only [isCapitals, upperChars, List.flatMap_cons, List.flatMap_nil, List.append_nil,
        List.length_append, List.all_append]
      rw [Bool.eq_iff_iff]
      simp only [Bool.and_eq_true, beq_iff_eq]
      constructor
      · rintro ⟨hlength, hall⟩
        exact ⟨⟨by omega, hall.1⟩, by omega, hall.2⟩
      · rintro ⟨⟨hone, hfirst⟩, hother, hsecond⟩
        exact ⟨by omega, hfirst, hsecond⟩
  | a :: b :: c :: cs =>
      have ha := List.length_pos_iff.mpr (upperChar_ne_nil a)
      have hb := List.length_pos_iff.mpr (upperChar_ne_nil b)
      have hc := List.length_pos_iff.mpr (upperChar_ne_nil c)
      simp only [isCapitals, upperChars, List.flatMap_cons, List.length_append]
      rw [Bool.and_eq_false_iff, beq_eq_false_iff_ne]
      exact .inl (by omega)

/-- `bare entry` is an entry or a query without the blanks around it. -/
def bare (entry : Option String) : String :=
  strip (entry.getD "")

/-- An entry is well-formed in normal form when, without blanks, it is two letters or disguised. -/
theorem isWellFormed_normalize (entry : Option String) :
    isWellFormed (normalize entry) = (isTwoLetters (bare entry) || isDisguised (bare entry)) := by
  have hnormalize : (normalize entry).toList = upperChars (bare entry).toList := by
    rw [bare, toList_strip]
    exact toList_normalizeText _
  rw [isWellFormed_eq, hnormalize, isCapitals_upperChars, isTwoLetters, isDisguised]
  generalize (bare entry).toList = cs
  match cs with
  | [] | _ :: _ :: _ :: _ => rfl
  | [c] => simp only [isCapitals_two_upperChar, Bool.false_or]
  | [a, b] =>
      simp only [isCapitals_one_upperChar]
      cases isAsciiLetter a <;> cases isAsciiLetter b <;> simp

theorem isTwoLetters_eq_false_of_isDisguised {text : String} (h : isDisguised text = true) :
    isTwoLetters text = false := by
  unfold isDisguised at h
  split at h
  · next c htext => simp [isTwoLetters, htext]
  · next a b htext =>
    rw [Bool.and_eq_true, Bool.not_eq_true'] at h
    rw [isTwoLetters, htext]
    exact h.2
  · cases h

theorem ne_empty_of_isDisguised {text : String} (h : isDisguised text = true) : text ≠ "" := by
  rintro rfl
  cases h

/-! ## The rule -/

/-- The rule for entries and queries as it is meant: the codes are the upper case of the entries of
two letters, any other entry that is not blank is reported, and no other query is supported. -/
structure OnlyLettersCount (entries : List (Option String)) (query : Option String) : Prop where
  codes : ∀ code, code ∈ (Table.ofEntries entries).codes ↔
    ∃ entry ∈ entries, isTwoLetters (bare entry) = true ∧ upper (bare entry) = code
  warnings : Table.warnings entries =
    (entries.filter fun entry ↦ bare entry ≠ "" && !isTwoLetters (bare entry)).map malformedEntry
  query : (Table.ofEntries entries).isSupported query = true → isTwoLetters (bare query) = true

/-- When a filter keeps as many members together with a second one, all that pass it pass both. -/
theorem all_of_length_filter {α β : Type} {p q : α → Bool} {f : α → β} {items : List α}
    (h : ((items.filter fun item ↦ p item && q item).map f).length =
      ((items.filter p).map f).length) :
    ∀ item ∈ items, p item = true → q item = true := by
  have hcomm : (fun item ↦ p item && q item) = fun item ↦ q item && p item :=
    funext fun item ↦ Bool.and_comm _ _
  rw [List.length_map, List.length_map, hcomm, ← List.filter_filter,
    List.length_filter_eq_length_iff] at h
  exact fun item hitem hp ↦ h item (List.mem_filter.mpr ⟨hitem, hp⟩)

namespace Table

variable {entries : List (Option String)}

theorem mem_codes_iff_letters {code : String} :
    code ∈ (ofEntries entries).codes ↔
      ∃ entry ∈ entries, (isTwoLetters (bare entry) || isDisguised (bare entry)) = true ∧
        upper (bare entry) = code := by
  simp only [mem_codes_ofEntries, isWellFormed_normalize]
  exact exists_congr fun entry ↦ and_congr_right fun _ ↦ and_comm

theorem isMalformed_eq (entry : Option String) :
    isMalformed entry =
      (bare entry ≠ "" && !isTwoLetters (bare entry) && !isDisguised (bare entry)) := by
  have hblank : normalize entry = "" ↔ bare entry = "" := upper_eq_empty_iff
  simp only [isMalformed, isWellFormed_normalize, ne_eq, hblank, Bool.not_or, Bool.and_assoc]

theorem isSupported_iff_letters {query : Option String} :
    (ofEntries entries).isSupported query = true ↔
      (isTwoLetters (bare query) || isDisguised (bare query)) = true ∧
        upper (bare query) ∈ (ofEntries entries).codes := by
  rw [isSupported_ofEntries_iff, mem_codes_ofEntries, ← isWellFormed_normalize]
  constructor
  · rintro ⟨entry, hentry, hformed, hsame⟩
    exact ⟨hsame ▸ hformed, entry, hentry, hsame, hformed⟩
  · rintro ⟨-, entry, hentry, hsame, hformed⟩
    exact ⟨entry, hentry, hformed, hsame⟩

/-- What becomes of two-letter entries and queries, and of disguised ones, which count as the
letters that they are in upper case. The rule that only two letters count holds exactly when no
entry is disguised and the query is not the disguise of a code. -/
theorem only_letters_count_iff (entries : List (Option String)) :
    (∀ code, code ∈ (ofEntries entries).codes ↔
      ∃ entry ∈ entries, (isTwoLetters (bare entry) || isDisguised (bare entry)) = true ∧
        upper (bare entry) = code) ∧
      warnings entries =
        (entries.filter fun entry ↦
          bare entry ≠ "" && !isTwoLetters (bare entry) && !isDisguised (bare entry)).map
            malformedEntry ∧
      ∀ query,
        ((ofEntries entries).isSupported query = true ↔
          (isTwoLetters (bare query) || isDisguised (bare query)) = true ∧
            upper (bare query) ∈ (ofEntries entries).codes) ∧
        (OnlyLettersCount entries query ↔
          (∀ entry ∈ entries, isDisguised (bare entry) = false) ∧
            ¬ (isDisguised (bare query) = true ∧
              upper (bare query) ∈ (ofEntries entries).codes)) := by
  have hwarnings := warnings_eq entries
  simp only [funext isMalformed_eq] at hwarnings
  -- the reported entries are those that the rule wants reported, without the disguised ones
  refine ⟨fun code ↦ mem_codes_iff_letters, hwarnings, fun query ↦ ⟨isSupported_iff_letters, ?_⟩⟩
  constructor
  · rintro ⟨-, hrule, hquery⟩
    constructor
    · intro entry hentry
      rw [← Bool.not_eq_true]
      intro hdisguised
      have hall := all_of_length_filter (congrArg List.length (hwarnings.symm.trans hrule))
      have hother := hall entry hentry (by simp [ne_empty_of_isDisguised hdisguised,
        isTwoLetters_eq_false_of_isDisguised hdisguised])
      simp [hdisguised] at hother
    · rintro ⟨hdisguised, hcode⟩
      have hletters := hquery (isSupported_iff_letters.mpr ⟨by simp [hdisguised], hcode⟩)
      rw [isTwoLetters_eq_false_of_isDisguised hdisguised] at hletters
      cases hletters
  · rintro ⟨hentries, hquery⟩
    refine ⟨fun code ↦ ?_, ?_, fun hsupported ↦ ?_⟩
    · rw [mem_codes_iff_letters]
      refine exists_congr fun entry ↦ and_congr_right fun hentry ↦ ?_
      rw [hentries entry hentry, Bool.or_false]
    · rw [hwarnings]
      refine congrArg (List.map malformedEntry) (List.filter_congr fun entry hentry ↦ ?_)
      rw [hentries entry hentry, Bool.not_false, Bool.and_true]
    · obtain ⟨hletters, hcode⟩ := isSupported_iff_letters.mp hsupported
      obtain hletters | hdisguised := (Bool.or_eq_true _ _).mp hletters
      · exact hletters
      · exact absurd ⟨hdisguised, hcode⟩ hquery

/-- Sharp s is an entry for the code `SS`. -/
example : (ofEntries [some "\u00df"]).codes = ["SS"] ∧ warnings [some "\u00df"] = [] := by
  decide

end Table

end AssistedDialing.Country
