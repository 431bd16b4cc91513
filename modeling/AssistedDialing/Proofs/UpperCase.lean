import AssistedDialing.Text.Blank
import AssistedDialing.Text.Upper
import Mathlib.Data.List.TakeWhile

/-!
# Upper-casing and blanks

What upper-casing does to one character, decided over the tables: it leaves blanks alone, turns
nothing into a blank, and its results are in upper case. Sets of code points are compared as
numbers, one bit for each code point, so that a comparison of two tables is one operation. For texts
it follows that upper-casing is idempotent and commutes with trimming.
-/

namespace AssistedDialing.Text

/-- `bitSet codes` is the number whose bits are set at `codes`. -/
def bitSet (codes : List Nat) : Nat :=
  codes.foldr (fun code set ↦ 1 <<< code ||| set) 0

theorem testBit_bitSet (codes : List Nat) (code : Nat) :
    (bitSet codes).testBit code = true ↔ code ∈ codes := by
  induction codes with
  | nil => simp [bitSet]
  | cons first codes ih =>
      have hcons : bitSet (first :: codes) = 1 <<< first ||| bitSet codes := rfl
      rw [hcons, Nat.testBit_or, Nat.one_shiftLeft, Nat.testBit_two_pow, Bool.or_eq_true, ih,
        List.mem_cons]
      simp [eq_comm]

/-- Lists of code points without a common bit have no common member. -/
theorem not_mem_of_bitSet_disjoint {left right : List Nat}
    (h : bitSet left &&& bitSet right = 0) {code : Nat} (hleft : code ∈ left) :
    code ∉ right := by
  intro hright
  have hboth : (bitSet left &&& bitSet right).testBit code = true := by
    rw [Nat.testBit_and, (testBit_bitSet left code).mpr hleft,
      (testBit_bitSet right code).mpr hright]
    rfl
  simp [h] at hboth

namespace CaseRun

/-- `run.codes` is the code points that the run maps. -/
def codes (run : CaseRun) : List Nat :=
  (List.range ((run.last - run.first) / run.step + 1)).map fun index ↦
    run.first + run.step * index

theorem mem_codes_of_contains {run : CaseRun} {code : Nat} (h : run.contains code = true) :
    code ∈ run.codes := by
  simp only [contains, Bool.and_eq_true, decide_eq_true_eq, beq_iff_eq] at h
  obtain ⟨⟨hfirst, hlast⟩, hstep⟩ := h
  refine List.mem_map.mpr ⟨(code - run.first) / run.step, ?_, ?_⟩
  · have hle : (code - run.first) / run.step ≤ (run.last - run.first) / run.step :=
      Nat.div_le_div_right (by omega)
    exact List.mem_range.mpr (by omega)
  · have hdiv := Nat.div_add_mod (code - run.first) run.step
    omega

end CaseRun

/-- A code point is mapped by a run that contains it, or left alone. -/
theorem mapSingle_cases (runs : List CaseRun) (code : Nat) :
    mapSingle runs code = code ∨
      ∃ run ∈ runs, code ∈ run.codes ∧ mapSingle runs code = run.apply code := by
  induction runs with
  | nil => exact .inl rfl
  | cons run runs ih =>
      rw [mapSingle]
      split
      · exact .inl rfl
      · split
        · next hcontains =>
            exact .inr ⟨run, List.mem_cons_self, CaseRun.mem_codes_of_contains hcontains, rfl⟩
        · rcases ih with hself | ⟨other, hmem, hcode, happly⟩
          · exact .inl hself
          · exact .inr ⟨other, List.mem_cons_of_mem _ hmem, hcode, happly⟩

/-- The code points of the small letters of ASCII. -/
def asciiSmall : List Nat :=
  (List.range 26).map (97 + ·)

/-- The code points that upper-casing changes. -/
def lowerCodes : List Nat :=
  asciiSmall ++ upperRuns.flatMap CaseRun.codes ++ upperExpansions.map Prod.fst

/-- The code points that upper-casing yields in place of others, and that of NUL. -/
def upperCodes : List Nat :=
  0 :: (asciiSmall.map (· - 32) ++ (upperRuns.flatMap fun run ↦ run.codes.map run.apply) ++
    upperExpansions.flatMap Prod.snd)

/-- The code points of blanks. -/
def blankCodes : List Nat :=
  List.range' 0x9 5 ++ List.range' 0x1C 5 ++ List.range' 0x2000 11 ++
    [0x85, 0xA0, 0x1680, 0x2028, 0x2029, 0x202F, 0x205F, 0x3000]

theorem mem_blankCodes {c : Char} (h : isBlank c = true) : c.toNat ∈ blankCodes := by
  simp only [isBlank, Bool.or_eq_true, Bool.and_eq_true, decide_eq_true_eq, beq_iff_eq] at h
  simp only [blankCodes, List.mem_append, List.mem_range'_1, List.mem_cons, List.not_mem_nil]
  omega

/-- What upper-casing yields is neither a blank nor changed by upper-casing. -/
theorem upperCodes_disjoint : bitSet upperCodes &&& bitSet (lowerCodes ++ blankCodes) = 0 := by
  -- one operation on two large numbers, where a comparison of the lists would take a million
  decide +kernel

/-- Blanks are not changed by upper-casing. -/
theorem blankCodes_disjoint : bitSet blankCodes &&& bitSet lowerCodes = 0 := by
  decide +kernel

/-- A character made from a code point has that code point or, where there is none, that of NUL. -/
theorem toNat_ofNat_eq_or (code : Nat) :
    (Char.ofNat code).toNat = code ∨ (Char.ofNat code).toNat = 0 := by
  by_cases hvalid : code.isValidChar
  · left
    rw [Char.ofNat, dif_pos hvalid]
    rfl
  · right
    rw [Char.ofNat, dif_neg hvalid]
    rfl

theorem mem_asciiSmall {code : Nat} : code ∈ asciiSmall ↔ 97 ≤ code ∧ code ≤ 122 := by
  simp only [asciiSmall, List.mem_map, List.mem_range]
  constructor
  · rintro ⟨index, hindex, rfl⟩
    omega
  · intro h
    exact ⟨code - 97, by omega, by omega⟩

/-- `Replaces codes c` holds when upper-casing replaces `c` by the characters of `codes`. -/
structure Replaces (codes : List Nat) (c : Char) : Prop where
  upperChar_eq : upperChar c = codes.map Char.ofNat
  ne_nil : codes ≠ []
  lower : c.toNat ∈ lowerCodes
  upper : ∀ code ∈ codes, code ∈ upperCodes

theorem mem_of_lookup {codes : List Nat} {code : Nat}
    (h : upperExpansions.lookup code = some codes) : (code, codes) ∈ upperExpansions := by
  obtain ⟨before, after, heq, _⟩ := List.lookup_eq_some_iff.mp h
  simp [heq]

/-- A small letter of ASCII is replaced by the capital letter. -/
theorem replaces_ascii {c : Char} (h : c.toNat ∈ asciiSmall) : Replaces [c.toNat - 32] c where
  upperChar_eq := by
    have hsmall := mem_asciiSmall.mp h
    have hascii : c.toNat < 0x80 := by omega
    simp [upperChar, hascii, hsmall]
  ne_nil := List.cons_ne_nil _ _
  lower := List.mem_append_left _ (List.mem_append_left _ h)
  upper := by
    intro code hcode
    rw [List.mem_singleton.mp hcode]
    exact List.mem_cons_of_mem _ (List.mem_append_left _ (List.mem_append_left _
      (List.mem_map_of_mem h)))

/-- A character with an expansion is replaced by it. -/
theorem replaces_expansion {c : Char} {codes : List Nat} (hascii : ¬ c.toNat < 0x80)
    (h : upperExpansions.lookup c.toNat = some codes) : Replaces codes c where
  upperChar_eq := by simp [upperChar, hascii, h]
  ne_nil := by
    have hall : ∀ expansion ∈ upperExpansions, expansion.2 ≠ [] := by decide
    exact hall _ (mem_of_lookup h)
  lower := List.mem_append_right _ (List.mem_map.mpr ⟨_, mem_of_lookup h, rfl⟩)
  upper := by
    intro code hcode
    exact List.mem_cons_of_mem _ (List.mem_append_right _
      (List.mem_flatMap.mpr ⟨_, mem_of_lookup h, hcode⟩))

/-- A character of a run is replaced by another one. -/
theorem replaces_run {c : Char} {run : CaseRun} (hascii : ¬ c.toNat < 0x80)
    (hlookup : upperExpansions.lookup c.toNat = none) (hrun : run ∈ upperRuns)
    (hcode : c.toNat ∈ run.codes) (happly : mapSingle upperRuns c.toNat = run.apply c.toNat) :
    Replaces [run.apply c.toNat] c where
  upperChar_eq := by simp [upperChar, hascii, hlookup, happly]
  ne_nil := List.cons_ne_nil _ _
  lower := List.mem_append_left _ (List.mem_append_right _
    (List.mem_flatMap.mpr ⟨run, hrun, hcode⟩))
  upper := by
    intro code hmem
    rw [List.mem_singleton.mp hmem]
    exact List.mem_cons_of_mem _ (List.mem_append_left _ (List.mem_append_right _
      (List.mem_flatMap.mpr ⟨run, hrun, List.mem_map_of_mem hcode⟩)))

/-- Upper-casing leaves a character alone or replaces it. -/
theorem upperChar_cases (c : Char) : upperChar c = [c] ∨ ∃ codes, Replaces codes c := by
  by_cases hascii : c.toNat < 0x80
  · by_cases hsmall : c.toNat ∈ asciiSmall
    · exact .inr ⟨_, replaces_ascii hsmall⟩
    · rw [mem_asciiSmall] at hsmall
      simp [upperChar, hascii, hsmall]
  · cases hlookup : upperExpansions.lookup c.toNat with
    | some codes => exact .inr ⟨codes, replaces_expansion hascii hlookup⟩
    | none =>
        rcases mapSingle_cases upperRuns c.toNat with hself | ⟨run, hrun, hcode, happly⟩
        · exact .inl (by simp [upperChar, hascii, hlookup, hself])
        · exact .inr ⟨_, replaces_run hascii hlookup hrun hcode happly⟩

/-- Only the listed code points are changed by upper-casing. -/
theorem upperChar_eq_self {c : Char} (h : c.toNat ∉ lowerCodes) : upperChar c = [c] := by
  rcases upperChar_cases c with hself | ⟨codes, hreplaces⟩
  · exact hself
  · exact absurd hreplaces.lower h

/-- What replaces a character is in upper case and no blank. -/
theorem Replaces.not_mem {c u : Char} {codes : List Nat} (h : Replaces codes c)
    (hu : u ∈ upperChar c) : u.toNat ∉ lowerCodes ++ blankCodes := by
  apply not_mem_of_bitSet_disjoint upperCodes_disjoint
  rw [h.upperChar_eq] at hu
  obtain ⟨code, hcode, rfl⟩ := List.mem_map.mp hu
  rcases toNat_ofNat_eq_or code with hsame | hzero
  · rw [hsame]
    exact h.upper code hcode
  · rw [hzero]
    exact List.mem_cons_self

/-- Upper-casing twice does what upper-casing once does. -/
theorem upperChar_of_mem {c u : Char} (hu : u ∈ upperChar c) : upperChar u = [u] := by
  rcases upperChar_cases c with hself | ⟨codes, hreplaces⟩
  · rw [hself] at hu
    rwa [List.mem_singleton.mp hu]
  · apply upperChar_eq_self
    intro hlower
    exact hreplaces.not_mem hu (List.mem_append_left _ hlower)

theorem upperChar_ne_nil (c : Char) : upperChar c ≠ [] := by
  rcases upperChar_cases c with hself | ⟨codes, hreplaces⟩
  · simp [hself]
  · simpa [hreplaces.upperChar_eq] using hreplaces.ne_nil

/-- Blanks are their own upper case. -/
theorem upperChar_of_isBlank {c : Char} (h : isBlank c = true) : upperChar c = [c] :=
  upperChar_eq_self (not_mem_of_bitSet_disjoint blankCodes_disjoint (mem_blankCodes h))

/-- Upper-casing neither yields nor loses a blank. -/
theorem isBlank_of_mem_upperChar {c u : Char} (hu : u ∈ upperChar c) : isBlank u = isBlank c := by
  cases hblank : isBlank c with
  | true =>
      rw [upperChar_of_isBlank hblank, List.mem_singleton] at hu
      rw [hu, hblank]
  | false =>
      rcases upperChar_cases c with hself | ⟨codes, hreplaces⟩
      · rw [hself, List.mem_singleton] at hu
        rw [hu, hblank]
      · apply Bool.eq_false_iff.mpr
        intro hblank
        exact hreplaces.not_mem hu (List.mem_append_right _ (mem_blankCodes hblank))

theorem upperChars_eq_self {cs : List Char} (h : ∀ c ∈ cs, upperChar c = [c]) :
    upperChars cs = cs := by
  induction cs with
  | nil => rfl
  | cons c cs ih =>
      rw [upperChars, List.flatMap_cons, h c List.mem_cons_self]
      exact congrArg (c :: ·) (ih fun other hother ↦ h other (List.mem_cons_of_mem _ hother))

/-- Upper-casing is idempotent. -/
theorem upperChars_upperChars (cs : List Char) : upperChars (upperChars cs) = upperChars cs := by
  apply upperChars_eq_self
  intro u hu
  obtain ⟨c, _, huc⟩ := List.mem_flatMap.mp hu
  exact upperChar_of_mem huc

theorem upper_upper (s : String) : upper (upper s) = upper s := by
  apply String.ext
  rw [toList_upper, toList_upper, upperChars_upperChars]

/-- Upper-casing leaves nothing out. -/
theorem upper_eq_empty_iff {s : String} : upper s = "" ↔ s = "" := by
  have hchars : upperChars s.toList = [] ↔ s.toList = [] := by
    cases s.toList <;> simp [upperChars, upperChar_ne_nil]
  rw [← String.toList_eq_nil_iff, ← String.toList_eq_nil_iff, toList_upper, hchars]

theorem eq_empty_iff_of_upper_eq {s t : String} (h : upper s = upper t) : s = "" ↔ t = "" := by
  rw [← upper_eq_empty_iff, h, upper_eq_empty_iff]

section Spread

variable {f : Char → List Char} (hne : ∀ c, f c ≠ [])
  (hblank : ∀ c, ∀ u ∈ f c, isBlank u = isBlank c)

include hne hblank

/-- The blanks that a text begins with are split off before or after it is spread. -/
theorem span_flatMap (cs : List Char) :
    (cs.flatMap f).takeWhile isBlank = (cs.takeWhile isBlank).flatMap f ∧
      (cs.flatMap f).dropWhile isBlank = (cs.dropWhile isBlank).flatMap f := by
  induction cs with
  | nil => exact ⟨rfl, rfl⟩
  | cons c cs ih =>
      rw [List.flatMap_cons]
      cases hc : isBlank c with
      | true =>
          have hall : ∀ u ∈ f c, isBlank u = true := fun u hu ↦ (hblank c u hu).trans hc
          rw [List.takeWhile_append_of_pos hall, List.dropWhile_append_of_pos hall, ih.1, ih.2,
            List.takeWhile_cons_of_pos hc, List.dropWhile_cons_of_pos hc]
          exact ⟨rfl, rfl⟩
      | false =>
          obtain ⟨u, us, hus⟩ := List.exists_cons_of_ne_nil (hne c)
          have hu : ¬ isBlank u = true := by
            rw [hblank c u (hus ▸ List.mem_cons_self), hc]
            exact Bool.false_ne_true
          have hc : ¬ isBlank c = true := by simp [hc]
          rw [hus, List.cons_append, List.takeWhile_cons_of_neg hu, List.dropWhile_cons_of_neg hu,
            List.takeWhile_cons_of_neg hc, List.dropWhile_cons_of_neg hc, List.flatMap_cons, hus]
          exact ⟨rfl, rfl⟩

end Spread

theorem span_upperChars (cs : List Char) :
    (upperChars cs).takeWhile isBlank = upperChars (cs.takeWhile isBlank) ∧
      (upperChars cs).dropWhile isBlank = upperChars (cs.dropWhile isBlank) :=
  span_flatMap upperChar_ne_nil (fun _ _ hu ↦ isBlank_of_mem_upperChar hu) cs

theorem span_reverse_upperChars (cs : List Char) :
    ((upperChars cs).reverse.takeWhile isBlank).reverse =
        upperChars (cs.reverse.takeWhile isBlank).reverse ∧
      ((upperChars cs).reverse.dropWhile isBlank).reverse =
        upperChars (cs.reverse.dropWhile isBlank).reverse := by
  have hspan := span_flatMap (f := List.reverse ∘ upperChar)
    (fun c ↦ by simpa using upperChar_ne_nil c)
    (fun c u hu ↦ isBlank_of_mem_upperChar (List.mem_reverse.mp hu)) cs.reverse
  rw [upperChars, List.reverse_flatMap, hspan.1, hspan.2, ← List.flatMap_reverse,
    ← List.flatMap_reverse]
  exact ⟨rfl, rfl⟩

/-- Upper-casing commutes with trimming. -/
theorem trim_upperChars (cs : List Char) : trim (upperChars cs) = upperChars (trim cs) := by
  rw [trim, trimStart, (span_upperChars cs).2, trimEnd, (span_reverse_upperChars _).2]
  rfl

/-- `padding cs` is the blanks that `cs` begins with and those that it ends with. -/
def padding (cs : List Char) : List Char × List Char :=
  (cs.takeWhile isBlank, ((trimStart cs).reverse.takeWhile isBlank).reverse)

/-- A text is what remains of it after trimming, between its padding. -/
theorem padding_append (cs : List Char) : (padding cs).1 ++ (trim cs ++ (padding cs).2) = cs := by
  have htrail : trim cs ++ (padding cs).2 = trimStart cs := by
    rw [trim, trimEnd, padding, ← List.reverse_append, List.takeWhile_append_dropWhile,
      List.reverse_reverse]
  rw [htrail]
  exact List.takeWhile_append_dropWhile

/-- Upper-casing keeps the padding. -/
theorem padding_upperChars (cs : List Char) : padding (upperChars cs) = padding cs := by
  have hlead : upperChars (cs.takeWhile isBlank) = cs.takeWhile isBlank :=
    upperChars_eq_self fun c hc ↦ upperChar_of_isBlank (List.mem_takeWhile_imp hc)
  have htrail : upperChars (padding cs).2 = (padding cs).2 :=
    upperChars_eq_self fun c hc ↦
      upperChar_of_isBlank (List.mem_takeWhile_imp (List.mem_reverse.mp hc))
  apply Prod.ext
  · rw [padding, (span_upperChars cs).1, hlead]
    rfl
  · rw [padding, trimStart, (span_upperChars cs).2, (span_reverse_upperChars _).1]
    exact htrail

/-- The upper case of a text is that of the trimmed text, between the padding. -/
theorem upperChars_eq_padding (cs : List Char) :
    upperChars cs = (padding cs).1 ++ (upperChars (trim cs) ++ (padding cs).2) := by
  rw [← trim_upperChars, ← padding_upperChars]
  exact (padding_append _).symm

end AssistedDialing.Text
