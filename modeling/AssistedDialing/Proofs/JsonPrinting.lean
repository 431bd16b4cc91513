import AssistedDialing.Json.Writer
import AssistedDialing.Proofs.DigitValue

/-!
# JSON on one line

In the compact form of a value control characters are escaped, and what is written around texts
holds none. So the form of any value is one line (`printed_compactChars`).
-/

namespace AssistedDialing.Json

open Text

/-- `Printed cs` says that `cs` holds no control character. -/
def Printed (cs : List Char) : Prop :=
  ∀ c ∈ cs, 0x20 ≤ c.toNat

instance (cs : List Char) : Decidable (Printed cs) :=
  List.decidableBAll (fun c : Char ↦ 0x20 ≤ c.toNat) cs

theorem printed_nil : Printed [] := by
  simp [Printed]

theorem printed_cons {c : Char} {cs : List Char} :
    Printed (c :: cs) ↔ 0x20 ≤ c.toNat ∧ Printed cs :=
  List.forall_mem_cons

theorem printed_append {cs ds : List Char} : Printed (cs ++ ds) ↔ Printed cs ∧ Printed ds :=
  List.forall_mem_append

theorem Printed.of_subset {cs ds : List Char} (h : Printed ds) (hsub : ∀ c ∈ cs, c ∈ ds) :
    Printed cs :=
  fun c hc ↦ h c (hsub c hc)

/-- No control character is in a printed text. -/
theorem Printed.not_mem {c : Char} {cs : List Char} (h : Printed cs) (hc : c.toNat < 0x20) :
    c ∉ cs :=
  fun hmem ↦ absurd (h c hmem) (Nat.not_le.mpr hc)

theorem printed_toDigits (n : Nat) : Printed (Nat.toDigits 10 n) := by
  intro c hc
  have hdigit := isAsciiDigit_of_mem_toDigits hc
  simp only [isAsciiDigit, Bool.and_eq_true, decide_eq_true_eq] at hdigit
  omega

theorem printed_replicate (n : Nat) {c : Char} (h : 0x20 ≤ c.toNat) :
    Printed (List.replicate n c) := by
  intro d hd
  rw [List.eq_of_mem_replicate hd]
  exact h

theorem printed_hexDigits (width n : Nat) : Printed (hexDigits width n) := by
  have hdigit : ∀ value < 16, 0x20 ≤ (hexDigit value).toNat := by decide
  induction width generalizing n with
  | zero => exact printed_nil
  | succ width ih =>
      exact printed_append.mpr
        ⟨ih _, printed_cons.mpr ⟨hdigit _ (Nat.mod_lt _ (by decide)), printed_nil⟩⟩

theorem printed_escapedChar (c : Char) : Printed (escapedChar c) := by
  have hunit := printed_hexDigits 4 c.toNat
  rw [escapedChar]
  split
  · next hc =>
    obtain rfl | rfl : c = '\"' ∨ c = '\\' := by simpa using hc
    all_goals simp [printed_cons, printed_nil]
  · split
    · rw [controlEscape]
      repeat' split
      all_goals simp [escapedUnit, printed_cons, printed_nil, hunit]
    · next hcontrol => simpa [printed_cons, printed_nil] using hcontrol

theorem printed_stringWith (s : String) : Printed (stringWith escapedChar s) := by
  have hbody : Printed (s.toList.flatMap escapedChar) := by
    intro d hd
    obtain ⟨c, -, hc⟩ := List.mem_flatMap.mp hd
    exact printed_escapedChar c d hc
  simp [stringWith, printed_cons, printed_append, printed_nil, hbody]

theorem printed_intChars (n : Int) : Printed (intChars n) := by
  have hdigits := printed_toDigits n.natAbs
  rw [intChars]
  split
  · exact printed_cons.mpr ⟨by decide, hdigits⟩
  · exact hdigits

theorem printed_positional {digits : List Char} (h : Printed digits) (point : Int) :
    Printed (Binary64.positional digits point) := by
  have hzeros (n : Nat) : Printed (List.replicate n '0') := printed_replicate n (by decide)
  have htake (n : Nat) : Printed (digits.take n) := h.of_subset fun _ ↦ List.mem_of_mem_take
  have hdrop (n : Nat) : Printed (digits.drop n) := h.of_subset fun _ ↦ List.mem_of_mem_drop
  rw [Binary64.positional]
  split
  · simp [printed_cons, printed_append, hzeros, h]
  · dsimp only
    split <;> simp [printed_cons, printed_append, printed_nil, hzeros, htake, hdrop]

theorem printed_exponentText (e : Int) : Printed (Binary64.exponentText e) := by
  have hdigits := printed_toDigits e.natAbs
  rw [Binary64.exponentText]
  split <;> split <;> simp [printed_cons, hdigits]

theorem printed_scientific {digits : List Char} (h : Printed digits) (point : Int) :
    Printed (Binary64.scientific digits point) := by
  have hexponent := printed_exponentText (point - 1)
  rw [Binary64.scientific.eq_def]
  dsimp only
  split <;> simp_all [printed_cons, printed_append, printed_nil]

theorem printed_withoutTrailingZeros {digits : List Char} (h : Printed digits) :
    Printed (Binary64.withoutTrailingZeros digits) :=
  h.of_subset fun _ hc ↦
    List.mem_reverse.mp ((List.dropWhile_sublist _).subset (List.mem_reverse.mp hc))

theorem printed_textChars (x : Binary64) : Printed x.textChars := by
  cases x with
  | nan => decide
  | infinite negative => cases negative <;> decide
  | finite negative significand exponent =>
      have hsign : Printed (if negative then ['-'] else []) := by cases negative <;> decide
      have hzero : Printed "0.0".toList := by decide
      rw [Binary64.textChars]
      generalize Binary64.shortest significand exponent = found
      obtain ⟨number, place⟩ := found
      have hdigits := printed_withoutTrailingZeros (printed_toDigits number)
      split
      · exact printed_append.mpr ⟨hsign, hzero⟩
      · refine printed_append.mpr ⟨hsign, ?_⟩
        split
        · exact printed_positional hdigits _
        · exact printed_scientific hdigits _

theorem printed_floatChars (x : Binary64) : Printed (floatChars x) := by
  cases x with
  | nan => decide
  | infinite negative => cases negative <;> decide
  | finite negative significand exponent => simpa only [floatChars] using printed_textChars _

mutual

/-- The compact form of a value holds no control character. -/
theorem printed_compactChars : ∀ json : Json, Printed (compactChars json)
  | null => by decide
  | bool value => by cases value <;> decide
  | int value => printed_intChars value
  | float value => printed_floatChars value
  | text value => printed_stringWith value
  | array items => printed_cons.mpr ⟨by decide, printed_compactItems items⟩
  | object fields => printed_cons.mpr ⟨by decide, printed_compactFields fields⟩

theorem printed_compactItems : ∀ items : List Json, Printed (compactItems items)
  | [] => by decide
  | [item] => printed_append.mpr ⟨printed_compactChars item, by decide⟩
  | item :: next :: items => printed_append.mpr
      ⟨printed_compactChars item,
        printed_cons.mpr ⟨by decide, printed_compactItems (next :: items)⟩⟩

theorem printed_compactFields : ∀ fields : List (String × Json), Printed (compactFields fields)
  | [] => by decide
  | [(name, value)] => printed_append.mpr
      ⟨printed_stringWith name,
        printed_cons.mpr ⟨by decide, printed_append.mpr ⟨printed_compactChars value, by decide⟩⟩⟩
  | (name, value) :: next :: fields => printed_append.mpr
      ⟨printed_stringWith name,
        printed_cons.mpr ⟨by decide, printed_append.mpr
          ⟨printed_compactChars value,
            printed_cons.mpr ⟨by decide, printed_compactFields (next :: fields)⟩⟩⟩⟩

end

end AssistedDialing.Json
