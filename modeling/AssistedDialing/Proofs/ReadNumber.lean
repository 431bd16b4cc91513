import AssistedDialing.Proofs.CallingCodeOrigin

/-!
# How a number is read

`read_readFrom` lists the two ways of reading a number, with a calling code of its own and with that
of the home region. In both the calling code has a source, and the national number is the value of 2
to 17 digits (`ReadFrom.spec`).
-/

namespace AssistedDialing.Dialled

open Text

section Steps

variable {ε α β : Type}

/-- A computation succeeds only past its guard. -/
theorem ok_of_guard {c : Prop} [Decidable c] {error : ε} {next : PUnit → Except ε α}
    {rest : Except ε α} {value : α}
    (h : (if c then throw error >>= next else rest) = .ok value) : ¬ c ∧ rest = .ok value := by
  split at h
  · cases h
  · next hguard => exact ⟨hguard, h⟩

/-- Two steps succeed when the first does and the second goes on with its value. -/
theorem ok_of_bind {first : Except ε α} {next : α → Except ε β} {value : β}
    (h : first >>= next = .ok value) : ∃ middle, first = .ok middle ∧ next middle = .ok value := by
  cases first with
  | error error => cases h
  | ok middle => exact ⟨middle, rfl, h⟩

end Steps

variable {plan : NumberingPlan} {home : Option Region} {text : List Char} {number : PhoneNumber}

theorem splitExtension?_isPrefix {cs before digits : List Char}
    (h : splitExtension? cs = some (before, digits)) : before <+: cs := by
  induction cs generalizing before with
  | nil => cases h
  | cons c cs ih =>
      rw [splitExtension?] at h
      split at h
      · cases h
        exact List.nil_prefix
      · obtain ⟨⟨rest, found⟩, hrest, heq⟩ := Option.map_eq_some_iff.mp h
        cases heq
        exact (List.prefix_cons_inj c).mpr (ih hrest)

/-- Splitting an extension off leaves the start of a number as it is. -/
theorem startsWithPlus_splitExtension (cs : List Char) :
    startsWithPlus (splitExtension cs).1 = startsWithPlus cs := by
  unfold splitExtension
  split
  · next before digits hsplit =>
    split
    · next hviable =>
      -- something viable stands before the extension, and so the first character of the text
      cases before with
      | nil => cases hviable
      | cons c before =>
          obtain ⟨rest, rfl⟩ := splitExtension?_isPrefix hsplit
          rfl
    · rfl
  · rfl

/-- `ReadFrom plan home text number` says how `number` is read from the viable text `text`: with a
calling code of its own, or with the one of the home region. -/
inductive ReadFrom (plan : NumberingPlan) (home : Option Region) (text : List Char)
    (number : PhoneNumber) : Prop where
  | ownCode {found : Extraction} {code : Nat}
      (hfound : callingCode plan home (splitExtension text).1 = .ok found)
      (hcode : found.code = some code)
      (hnumber : ofDigits code found.source (splitExtension text).2
        (withoutNationalPrefix (plan.regionsOf code).head? found.rest) = .ok number)
  | homeCode {found : Extraction} {region : Region}
      (hfound : callingCode plan home (splitExtension text).1 = .ok found)
      (hcode : found.code = none) (hhome : home = some region)
      (hnumber : ofDigits region.callingCode found.source (splitExtension text).2
        (withoutNationalPrefix home (normalize (splitExtension text).1)) = .ok number)

/-- A number is read from what a short enough text asks to dial, if that is viable. -/
theorem read_readFrom {raw : String} {region : Option String}
    (h : read plan raw region = .ok number) :
    raw.toList.length ≤ mostCharacters ∧
      ∃ text, dialled raw.toList = .ok text ∧ isViable text = true ∧
        ReadFrom plan (region.bind plan.region?) text number := by
  obtain ⟨hlong, h⟩ := ok_of_guard h
  obtain ⟨text, htext, h⟩ := ok_of_bind h
  obtain ⟨hviable, h⟩ := ok_of_guard h
  obtain ⟨hregion, h⟩ := ok_of_guard h
  obtain ⟨found, hfound, h⟩ := ok_of_bind h
  obtain ⟨-, h⟩ := ok_of_guard h
  change callingCode plan (region.bind plan.region?) (splitExtension text).1 = .ok found at hfound
  refine ⟨Nat.le_of_not_lt hlong, text, htext, by simpa using hviable, ?_⟩
  cases hcode : found.code with
  | some code =>
      simp only [hcode] at h
      exact .ownCode hfound hcode h
  | none =>
      simp only [hcode] at h
      -- without a code of its own the text has no plus sign, so the home region must be known
      have hstart : startsWithPlus text = false := by
        rw [← startsWithPlus_splitExtension]
        exact eq_false_of_ne_true fun hplus ↦ code_ne_none_of_plus hfound hplus hcode
      cases hhome : region.bind plan.region? with
      | none => simp [hhome, hstart] at hregion
      | some home =>
          rw [hhome] at h hfound
          exact .homeCode hfound hcode rfl h

/-- `NationalDigits digits n` says that a national number `n` is the value of `digits`, which are
neither too few nor too many. -/
structure NationalDigits (digits : List Char) (n : Nat) : Prop where
  isDigits : IsDigits digits
  least : leastDigits ≤ digits.length
  most : digits.length ≤ mostDigits
  value_eq : asciiNumber? digits = some n

theorem NationalDigits.lt {digits : List Char} {n : Nat} (h : NationalDigits digits n) :
    n < 10 ^ mostDigits := by
  have hne : digits ≠ [] := by
    rintro rfl
    cases h.value_eq
  obtain ⟨m, hvalue, hlt⟩ := exists_asciiNumber? hne h.isDigits.all_eq_true
  cases h.value_eq.symm.trans hvalue
  exact Nat.lt_of_lt_of_le hlt (Nat.pow_le_pow_right (by decide) h.most)

/-- A number keeps its calling code and its source, and has neither too few nor too many digits. -/
theorem ofDigits_spec {code : Nat} {source : CodeSource} {extension : Option (List Char)}
    {digits : List Char} (h : ofDigits code source extension digits = .ok number) :
    number.callingCode = some (code : Int) ∧ number.source = some source.number ∧
      number.nationalNumber = some (((asciiNumber? digits).getD 0 : Nat) : Int) ∧
      leastDigits ≤ digits.length ∧ digits.length ≤ mostDigits := by
  unfold ofDigits at h
  split at h
  · cases h
  · next hleast =>
    split at h
    · cases h
    · next hmost =>
      cases h
      exact ⟨rfl, rfl, rfl, Nat.le_of_not_lt hleast, Nat.le_of_not_lt hmost⟩

/-- Digits that make up a number are its value. -/
theorem nationalDigits_of_ofDigits {code : Nat} {source : CodeSource}
    {extension : Option (List Char)} {digits : List Char}
    (h : ofDigits code source extension digits = .ok number) (hdigits : IsDigits digits) :
    ∃ n : Nat, number.nationalNumber = some (n : Int) ∧ NationalDigits digits n := by
  obtain ⟨-, -, hnumber, hleast, hmost⟩ := ofDigits_spec h
  have hne : digits ≠ [] := by
    rintro rfl
    cases hleast
  obtain ⟨n, hvalue, -⟩ := exists_asciiNumber? hne hdigits.all_eq_true
  exact ⟨n, by rw [hnumber, hvalue]; rfl, hdigits, hleast, hmost, hvalue⟩

/-- A number has a calling code with its source and the national digits that were dialled. -/
theorem ReadFrom.spec (h : ReadFrom plan home text number) (hplan : plan.WellFormed)
    (hhome : ∀ region ∈ home, region.WellFormed) :
    ∃ (source : CodeSource) (code n : Nat) (digits : List Char),
      number.source = some source.number ∧ number.callingCode = some (code : Int) ∧
        CodeOrigin plan home source code ∧ number.nationalNumber = some (n : Int) ∧
          NationalDigits digits n := by
  cases h with
  | @ownCode found code hfound hcode hnumber =>
      obtain ⟨tried, -, hextracts⟩ := callingCode_extracts hfound
      have howner : ∀ region ∈ (plan.regionsOf code).head?, region.WellFormed :=
        fun region hregion ↦ hplan region (NumberingPlan.mem_of_regionsOf hregion)
      obtain ⟨hcallingCode, hsource, -⟩ := ofDigits_spec hnumber
      obtain ⟨n, hvalue, hdigits⟩ := nationalDigits_of_ofDigits hnumber
        (withoutNationalPrefix_isDigits howner (hextracts.isDigits_rest hhome))
      exact ⟨found.source, code, n, _, hsource, hcallingCode, (hextracts.origin hcode).1, hvalue,
        hdigits⟩
  | @homeCode found region hfound hcode hregion hnumber =>
      obtain ⟨tried, -, hextracts⟩ := callingCode_extracts hfound
      obtain ⟨hcallingCode, hsource, -⟩ := ofDigits_spec hnumber
      obtain ⟨n, hvalue, hdigits⟩ := nationalDigits_of_ofDigits hnumber
        (withoutNationalPrefix_isDigits hhome (normalize_isDigits _))
      have hdefault := (hextracts.of_code_eq_none hcode).1
      exact ⟨found.source, region.callingCode, n, _, hsource, hcallingCode,
        .home (.inr hdefault) hregion, hvalue, hdigits⟩

/-- A number that is read from a plus sign has a calling code of its own. -/
theorem ReadFrom.of_plus (h : ReadFrom plan home text number)
    (hstart : startsWithPlus text = true) :
    number.callingCode.isSome = true ∧
      ∃ source : CodeSource, number.source = some source.number ∧ source ≠ .defaultCountry := by
  cases h with
  | @ownCode found code hfound hcode hnumber =>
      obtain ⟨tried, -, hextracts⟩ := callingCode_extracts hfound
      obtain ⟨hcallingCode, hsource, -⟩ := ofDigits_spec hnumber
      exact ⟨by rw [hcallingCode]; rfl, found.source, hsource, (hextracts.origin hcode).2⟩
  | homeCode hfound hcode =>
      rw [← startsWithPlus_splitExtension] at hstart
      exact absurd hcode (code_ne_none_of_plus hfound hstart)

end AssistedDialing.Dialled
