import AssistedDialing.Proofs.DialledDigits

/-!
# Where a calling code comes from

`Extracts` has one case for each way in which a calling code is separated from a number, and
`callingCode_extracts` shows that these are all, the second try without a plus sign included. A code
that was dialled is one in use, and any other is that of the home region (`CodeOrigin`). A number
that starts with a plus sign never gets its code from the default country.
-/

namespace AssistedDialing.Dialled

open Text

variable {plan : NumberingPlan} {home : Option Region} {cs : List Char} {found : Extraction}

/-- `Extracts plan home cs found` says how `found` is separated from `cs`: behind a plus sign,
behind an international prefix, from a number that begins with the code of the home region, or, for
a number without any code, not at all. -/
inductive Extracts (plan : NumberingPlan) (home : Option Region) (cs : List Char) :
    Extraction → Prop where
  | plusSign {code : Nat} {rest : List Char} (hstart : startsWithPlus cs = true)
      (hcode : callingCodeIn? plan (normalize (cs.dropWhile isPlus)) = some (code, rest)) :
      Extracts plan home cs ⟨.plusSign, some code, rest⟩
  | internationalPrefix {digits rest : List Char} {code : Nat}
      (hfollows : stripInternationalPrefix? home (normalize cs) = some digits)
      (hcode : callingCodeIn? plan digits = some (code, rest)) :
      Extracts plan home cs ⟨.internationalPrefix, some code, rest⟩
  | withoutPlusSign {region : Region} {rest : List Char} (hhome : home = some region)
      (hrest : codeWithoutPlus? region (normalize cs) = some rest) :
      Extracts plan home cs ⟨.withoutPlusSign, some region.callingCode, rest⟩
  | defaultCountry (hstart : startsWithPlus cs = false) :
      Extracts plan home cs ⟨.defaultCountry, none, []⟩

theorem exists_of_codeAfterPrefix {source : CodeSource} {digits : List Char}
    (h : codeAfterPrefix plan source digits = .ok found) :
    ∃ code rest, callingCodeIn? plan digits = some (code, rest) ∧
      found = ⟨source, some code, rest⟩ := by
  unfold codeAfterPrefix at h
  split at h
  · cases h
  · split at h
    · next code rest hcode =>
      cases h
      exact ⟨code, rest, hcode, rfl⟩
    · cases h

theorem extractCallingCode_extracts (h : extractCallingCode plan home cs = .ok found) :
    Extracts plan home cs found := by
  unfold extractCallingCode at h
  split at h
  · next hstart =>
    obtain ⟨code, rest, hcode, rfl⟩ := exists_of_codeAfterPrefix h
    exact .plusSign hstart hcode
  · next hstart =>
    dsimp only at h
    split at h
    · next digits hfollows =>
      obtain ⟨code, rest, hcode, rfl⟩ := exists_of_codeAfterPrefix h
      exact .internationalPrefix hfollows hcode
    · split at h
      · next code rest hwithout =>
        obtain ⟨region, hhome, hmap⟩ := Option.bind_eq_some_iff.mp hwithout
        obtain ⟨national, hrest, heq⟩ := Option.map_eq_some_iff.mp hmap
        cases heq
        cases h
        exact .withoutPlusSign hhome hrest
      · cases h
        exact .defaultCountry (eq_false_of_ne_true hstart)

/-- A calling code is separated from the number as it is or, in the second try, from the number
without its plus sign, and then there must be one. -/
theorem callingCode_extracts (h : callingCode plan home cs = .ok found) :
    ∃ tried, (tried = cs ∨ found.code.isSome = true) ∧ Extracts plan home tried found := by
  unfold callingCode at h
  split at h
  -- only an unknown code behind a plus sign leads to a second try
  · split at h
    · split at h
      · next again hagain =>
        split at h
        · next hcode =>
          cases h
          exact ⟨_, .inr hcode, extractCallingCode_extracts hagain⟩
        · cases h
      · cases h
    · cases h
  · exact ⟨cs, .inl rfl, extractCallingCode_extracts h⟩

/-- A calling code in a number is in use and positive, and what follows is the end of the digits. -/
theorem callingCodeIn?_spec {digits rest : List Char} {code : Nat}
    (h : callingCodeIn? plan digits = some (code, rest)) :
    plan.isCallingCode code = true ∧ 0 < code ∧ rest <:+ digits := by
  unfold callingCodeIn? at h
  split at h
  · cases h
  · next hzero =>
    obtain ⟨count, hcount, hcode⟩ := List.exists_of_findSome?_eq_some h
    split at hcode
    · cases hcode
    · split at hcode
      · next number hnumber =>
        split at hcode
        · next hused =>
          cases hcode
          -- a code begins with the first digit, which is no zero
          have hfirst : (digits.take count).head? ≠ some '0' := by
            have hpos : count ≠ 0 := by rintro rfl; simp at hcount
            rw [List.head?_take, if_neg hpos]
            simpa using hzero
          exact ⟨hused, asciiNumber?_pos hfirst hnumber, List.drop_suffix _ _⟩
        · cases hcode
      · cases hcode

/-- `CodeOrigin plan home source code` says that a calling code has its source: a code that was
dialled is in use, and any other is that of the home region. -/
inductive CodeOrigin (plan : NumberingPlan) (home : Option Region) : CodeSource → Nat → Prop where
  | dialled {source : CodeSource} {code : Nat}
      (hsource : source = .plusSign ∨ source = .internationalPrefix)
      (hused : plan.isCallingCode code = true) (hpos : 0 < code) :
      CodeOrigin plan home source code
  | home {source : CodeSource} {region : Region}
      (hsource : source = .withoutPlusSign ∨ source = .defaultCountry)
      (hhome : home = some region) : CodeOrigin plan home source region.callingCode

namespace CodeOrigin

variable {source : CodeSource} {code : Nat}

theorem ne_unspecified (h : CodeOrigin plan home source code) : source ≠ .unspecified := by
  rintro rfl
  cases h <;> simp_all

theorem pos (h : CodeOrigin plan home source code)
    (hwell : ∀ region ∈ home, region.WellFormed) : 0 < code := by
  cases h with
  | dialled _ _ hpos => exact hpos
  | home _ hhome => exact (hwell _ hhome).callingCode_pos

/-- The default country gives the code of the home region. -/
theorem exists_home (h : CodeOrigin plan home .defaultCountry code) :
    ∃ region, home = some region ∧ code = region.callingCode := by
  cases h with
  | dialled hsource => simp at hsource
  | home _ hhome => exact ⟨_, hhome, rfl⟩

end CodeOrigin

namespace Extracts

theorem origin {code : Nat} (h : Extracts plan home cs found) (hcode : found.code = some code) :
    CodeOrigin plan home found.source code ∧ found.source ≠ .defaultCountry := by
  cases h with
  | plusSign _ hin | internationalPrefix _ hin =>
      cases hcode
      obtain ⟨hused, hpos, -⟩ := callingCodeIn?_spec hin
      exact ⟨.dialled (by simp) hused hpos, by simp⟩
  | withoutPlusSign hhome =>
      cases hcode
      exact ⟨.home (by simp) hhome, by simp⟩
  | defaultCountry => cases hcode

theorem of_code_eq_none (h : Extracts plan home cs found) (hcode : found.code = none) :
    found.source = .defaultCountry ∧ startsWithPlus cs = false := by
  cases h with
  | plusSign | internationalPrefix | withoutPlusSign => cases hcode
  | defaultCountry hstart => exact ⟨rfl, hstart⟩

/-- What follows the calling code is digits. -/
theorem isDigits_rest (h : Extracts plan home cs found)
    (hwell : ∀ region ∈ home, region.WellFormed) : IsDigits found.rest := by
  cases h with
  | plusSign _ hcode =>
      exact (normalize_isDigits _).of_subset (callingCodeIn?_spec hcode).2.2.subset
  | internationalPrefix hfollows hcode =>
      have hdigits := stripInternationalPrefix?_isDigits (normalize_isDigits cs) hfollows
      exact hdigits.of_subset (callingCodeIn?_spec hcode).2.2.subset
  | withoutPlusSign hhome hrest =>
      exact codeWithoutPlus?_isDigits (hwell _ hhome) (normalize_isDigits cs) hrest
  | defaultCountry => simp [IsDigits]

end Extracts

/-- A number that starts with a plus sign has its own calling code. -/
theorem code_ne_none_of_plus (h : callingCode plan home cs = .ok found)
    (hstart : startsWithPlus cs = true) : found.code ≠ none := by
  intro hnone
  obtain ⟨tried, htried, hextracts⟩ := callingCode_extracts h
  rcases htried with rfl | hcode
  · simp [(hextracts.of_code_eq_none hnone).2] at hstart
  · simp [hnone] at hcode

end AssistedDialing.Dialled
