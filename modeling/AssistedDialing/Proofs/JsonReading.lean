import AssistedDialing.Json.Reader
import AssistedDialing.Json.Writer
import AssistedDialing.Proofs.DigitValue

/-!
# Reading JSON back

A value is read by its first character, and the end of an integer shows only in the character behind
it. So `ReadsAs json cs` is about texts that begin with `cs` and go on in a way that leaves no doubt
where the value ends, and there is one lemma for each kind of value, with any white space between
its parts. A value is exact when it holds no floating-point number. Its compact form reads back as
the value itself, and so different exact values are written differently (`read?_compact`).
-/

namespace AssistedDialing.Json

open Text

/-- A value is exact when no floating-point number is a part of it. -/
inductive Exact : Json → Prop where
  | null : Exact null
  | bool (value : Bool) : Exact (bool value)
  | int (value : Int) : Exact (int value)
  | text (value : String) : Exact (text value)
  | array {items : List Json} (h : ∀ item ∈ items, Exact item) : Exact (array items)
  | object {fields : List (String × Json)} (h : ∀ field ∈ fields, Exact field.2) :
      Exact (object fields)

/-! ## Strings -/

theorem hexValue?_hexDigit : ∀ value < 16, hexValue? (hexDigit value) = some value := by
  decide

/-- Hexadecimal digits are read as the number that is written with them, as far as there are enough.
-/
theorem hexNumber?_hexDigits (width n : Nat) :
    hexNumber? (hexDigits width n) = some (n % 16 ^ width) := by
  induction width generalizing n with
  | zero => rw [Nat.pow_zero, Nat.mod_one]; rfl
  | succ width ih =>
      have hlast := hexValue?_hexDigit (n % 16) (Nat.mod_lt _ (by decide))
      have hfirst := ih (n / 16)
      rw [hexNumber?] at hfirst ⊢
      rw [hexDigits, List.foldl_append, hfirst]
      show (do return 16 * (n / 16 % 16 ^ width) + (← hexValue? (hexDigit (n % 16)))) = _
      rw [hlast, Nat.pow_succ', Nat.mod_mul, Nat.add_comm]
      rfl

/-- A code unit is read from its four digits. -/
theorem unit?_hexDigits {code : Nat} (h : code < 0x10000) (rest : List Char) :
    unit? (hexDigits 4 code ++ rest) = some (code, rest) := by
  have hsmall : code % 16 ^ 4 = code := Nat.mod_eq_of_lt h
  have hcode := hexNumber?_hexDigits 4 code
  rw [hsmall] at hcode
  simp only [hexDigits, List.nil_append, List.cons_append] at hcode ⊢
  simp [unit?, hcode]

/-- The escape of a control character is a backslash and what stands for the character. -/
theorem controlEscape_reads {c : Char} (h : c.toNat < 0x20) (rest : List Char) :
    ∃ body, controlEscape c = '\\' :: body ∧ escaped? (body ++ rest) = some (c, rest) := by
  rw [controlEscape]
  split
  · next hc => exact ⟨['n'], rfl, by simp [escaped?, hc]⟩
  split
  · next hc => exact ⟨['r'], rfl, by simp [escaped?, hc]⟩
  split
  · next hc => exact ⟨['t'], rfl, by simp [escaped?, hc]⟩
  split
  · next hc => exact ⟨['b'], rfl, by rw [← Char.ofNat_toNat c, hc]; rfl⟩
  split
  · next hc => exact ⟨['f'], rfl, by rw [← Char.ofNat_toNat c, hc]; rfl⟩
  · have hhigh : isHigh c.toNat = false := by simp [isHigh]; omega
    have hlow : isLow c.toNat = false := by simp [isLow]; omega
    exact ⟨'u' :: hexDigits 4 c.toNat, rfl,
      by simp [escaped?, unit?_hexDigits (Nat.lt_trans h (by decide)), hhigh, hlow, unitChar]⟩

/-- What stands behind a backslash is read as one character. -/
theorem stringBody?_backslash {c : Char} {body rest : List Char} (fuel : Nat)
    (h : escaped? body = some (c, rest)) :
    stringBody? (fuel + 1) ('\\' :: body) =
      (stringBody? fuel rest).map fun read ↦ (c :: read.1, read.2) := by
  rw [stringBody?, if_neg (by decide), if_pos rfl, h]
  change (stringBody? fuel rest).bind (fun read ↦ some (c :: read.1, read.2)) = _
  cases stringBody? fuel rest <;> rfl

/-- `Spells escape` says that what `escape` writes for a character is not empty and is read as that
character, in one step. -/
structure Spells (escape : Char → List Char) : Prop where
  ne_nil : ∀ c, escape c ≠ []
  reads : ∀ fuel c rest, stringBody? (fuel + 1) (escape c ++ rest) =
    (stringBody? fuel rest).map fun read ↦ (c :: read.1, read.2)

theorem escapedChar_ne_nil (c : Char) : escapedChar c ≠ [] := by
  rw [escapedChar, controlEscape]
  repeat' split
  all_goals simp [escapedUnit]

theorem stringBody?_escapedChar (fuel : Nat) (c : Char) (rest : List Char) :
    stringBody? (fuel + 1) (escapedChar c ++ rest) =
      (stringBody? fuel rest).map fun read ↦ (c :: read.1, read.2) := by
  rw [escapedChar]
  split
  · next hc =>
    refine stringBody?_backslash fuel ?_
    obtain rfl | rfl : c = '\"' ∨ c = '\\' := by simpa using hc
    all_goals rfl
  · next hc =>
    obtain ⟨hquote, hbackslash⟩ : c ≠ '\"' ∧ c ≠ '\\' := by simpa using hc
    split
    · next hcontrol =>
      obtain ⟨body, hbody, hread⟩ := controlEscape_reads hcontrol rest
      rw [hbody, List.cons_append]
      exact stringBody?_backslash fuel hread
    · next hcontrol =>
      rw [List.cons_append, List.nil_append, stringBody?, if_neg hquote, if_neg hbackslash,
        if_neg hcontrol]
      cases stringBody? fuel rest <;> rfl

namespace Spells

variable {escape : Char → List Char} (h : Spells escape)

include h

theorem stringBody? {cs : List Char} {fuel : Nat} (hfuel : cs.length < fuel) (rest : List Char) :
    stringBody? fuel (cs.flatMap escape ++ '\"' :: rest) = some (cs, rest) := by
  induction cs generalizing fuel with
  | nil =>
      obtain ⟨fuel, rfl⟩ := Nat.exists_eq_add_one.mpr hfuel
      rfl
  | cons c cs ih =>
      obtain ⟨fuel, rfl⟩ := Nat.exists_eq_add_one.mpr (Nat.zero_lt_of_lt hfuel)
      rw [List.flatMap_cons, List.append_assoc, h.reads, ih (Nat.lt_of_succ_lt_succ hfuel)]
      rfl

theorem length_le (cs : List Char) : cs.length ≤ (cs.flatMap escape).length := by
  induction cs with
  | nil => exact Nat.le_refl _
  | cons c cs ih =>
      have hc := List.length_pos_iff.mpr (h.ne_nil c)
      rw [List.flatMap_cons, List.length_append, List.length_cons]
      omega

/-- A string is read from behind its opening quotation mark on. -/
theorem string? (s : String) (rest : List Char) :
    string? (s.toList.flatMap escape ++ '\"' :: rest) = some (s, rest) := by
  have hlength := h.length_le s.toList
  have hread :
      Json.stringBody? ((s.toList.flatMap escape ++ '\"' :: rest).length + 1)
        (s.toList.flatMap escape ++ '\"' :: rest) = some (s.toList, rest) :=
    h.stringBody? (by rw [List.length_append]; omega) rest
  simp only [Json.string?, hread, Option.map_some, String.ofList_toList]

end Spells

/-! ## White space -/

/-- `IsSpaces cs` says that `cs` consists of white space. -/
def IsSpaces (cs : List Char) : Prop :=
  ∀ c ∈ cs, isSpace c = true

theorem IsSpaces.nil : IsSpaces [] := by
  simp [IsSpaces]

theorem IsSpaces.skipSpace_append {spaces : List Char} (h : IsSpaces spaces) (cs : List Char) :
    skipSpace (spaces ++ cs) = skipSpace cs :=
  List.dropWhile_append_of_pos h

/-! ## Numbers -/

/-- The characters that may stand behind a value: a comma, a closing bracket or brace, and white
space. -/
def valueEnds : List Char :=
  [',', ']', '\x7d', ' ', '\n', '\r', '\t']

/-- `EndsValue rest` says that `rest` may stand behind a value that is a part of another. -/
def EndsValue (rest : List Char) : Prop :=
  ∀ c ∈ rest.head?, c ∈ valueEnds

theorem EndsValue.nil : EndsValue [] := by
  simp [EndsValue]

theorem EndsValue.cons {c : Char} (h : c ∈ valueEnds) (rest : List Char) :
    EndsValue (c :: rest) := by
  simpa [EndsValue] using h

/-- What holds for all characters that may stand behind a value holds for the one that does. -/
theorem EndsValue.head {p : Char → Bool} (hp : valueEnds.all p = true) {c : Char}
    {rest : List Char} (h : EndsValue (c :: rest)) : p c = true :=
  List.all_eq_true.mp hp c (h c rfl)

theorem IsSpaces.endsValue {spaces rest : List Char} (h : IsSpaces spaces)
    (hrest : EndsValue rest) : EndsValue (spaces ++ rest) := by
  cases spaces with
  | nil => exact hrest
  | cons c spaces =>
      have hc := h c List.mem_cons_self
      simp only [isSpace, Bool.or_eq_true, beq_iff_eq] at hc
      obtain ((rfl | rfl) | rfl) | rfl := hc
      all_goals exact .cons (by decide) _

/-- A run of digits ends where the value does. -/
theorem digitRun_append {digits rest : List Char} (h : digits.all isAsciiDigit = true)
    (hrest : EndsValue rest) : digitRun (digits ++ rest) = (digits, rest) := by
  have hstop : rest.takeWhile isAsciiDigit = [] ∧ rest.dropWhile isAsciiDigit = rest := by
    cases rest with
    | nil => exact ⟨rfl, rfl⟩
    | cons c rest =>
        have hc := hrest.head (p := fun c ↦ !isAsciiDigit c) (by decide)
        rw [Bool.not_eq_true'] at hc
        simp [hc]
  have hall : ∀ c ∈ digits, isAsciiDigit c = true := List.all_eq_true.mp h
  rw [digitRun, List.takeWhile_append_of_pos hall, List.dropWhile_append_of_pos hall, hstop.1,
    hstop.2, List.append_nil]

theorem fraction_of_endsValue {rest : List Char} (h : EndsValue rest) :
    fraction rest = (none, rest) := by
  cases rest with
  | nil => rfl
  | cons c rest =>
      have hc := h.head (p := (· != '.')) (by decide)
      rw [bne_iff_ne] at hc
      rw [fraction]
      rintro cs heq
      exact hc (List.cons.inj heq).1

theorem exponent_of_endsValue {rest : List Char} (h : EndsValue rest) :
    exponent rest = (none, rest) := by
  cases rest with
  | nil => rfl
  | cons c rest =>
      have hc := h.head (p := fun c ↦ !(decide (c = 'e') || decide (c = 'E'))) (by decide)
      rw [Bool.not_eq_true'] at hc
      simp only [exponent, hc]
      rfl

theorem unsigned?_toDigits (negative : Bool) (n : Nat) {rest : List Char} (h : EndsValue rest) :
    unsigned? negative (Nat.toDigits 10 n ++ rest) =
      some (int (if negative then -(n : Int) else n), rest) := by
  have hdigits : (Nat.toDigits 10 n).all isAsciiDigit = true :=
    List.all_eq_true.mpr fun c hc ↦ isAsciiDigit_of_mem_toDigits hc
  simp [unsigned?, digitRun_append hdigits h, asciiNumber?_toDigits, fraction_of_endsValue h,
    exponent_of_endsValue h]

theorem number?_intChars (n : Int) {rest : List Char} (h : EndsValue rest) :
    number? (intChars n ++ rest) = some (int n, rest) := by
  rw [intChars]
  split
  · next hneg =>
    rw [List.cons_append, number?, unsigned?_toDigits true _ h]
    simp only [if_true]
    rw [show -(n.natAbs : Int) = n by omega]
  · next hneg =>
    obtain ⟨c, cs, hcs⟩ :=
      List.exists_cons_of_ne_nil (Nat.toDigits_ne_nil (n := n.natAbs) (b := 10))
    have hc : c ≠ '-' := by
      rintro rfl
      have := isAsciiDigit_of_mem_toDigits (n := n.natAbs) (c := '-') (by simp [hcs])
      simp [isAsciiDigit] at this
    have hread := unsigned?_toDigits false n.natAbs h
    rw [hcs, List.cons_append] at hread ⊢
    rw [number?, hread]
    · simp only [Bool.false_eq_true, if_false]
      rw [show (n.natAbs : Int) = n by omega]
    · intro cs' h'
      exact hc (List.cons.inj h').1

/-! ## Values -/

/-- One step of reading a value. The three steps are stated here once, and no proof unfolds the
functions themselves. -/
theorem value?_succ (fuel : Nat) (cs : List Char) :
    value? (fuel + 1) cs =
      match skipSpace cs with
      | '\"' :: rest => (string? rest).map fun (s, rest) ↦ (text s, rest)
      | '[' :: rest =>
          match skipSpace rest with
          | ']' :: rest => some (array [], rest)
          | rest => (items? fuel rest).map fun (items, rest) ↦ (array items, rest)
      | '\x7b' :: rest =>
          match skipSpace rest with
          | '\x7d' :: rest => some (object [], rest)
          | rest => (fields? fuel rest).map fun (fields, rest) ↦ (object fields, rest)
      | rest =>
          match keyword? rest with
          | some result => some result
          | none => number? rest :=
  rfl

theorem items?_succ (fuel : Nat) (cs : List Char) :
    items? (fuel + 1) cs = (do
      let (item, rest) ← value? fuel cs
      match skipSpace rest with
      | ',' :: rest =>
          let (items, rest) ← items? fuel rest
          return (item :: items, rest)
      | ']' :: rest => return ([item], rest)
      | _ => none) :=
  rfl

theorem fields?_succ (fuel : Nat) (cs : List Char) :
    fields? (fuel + 1) cs =
      match skipSpace cs with
      | '\"' :: rest => do
          let (name, rest) ← string? rest
          match skipSpace rest with
          | ':' :: rest =>
              let (value, rest) ← value? fuel rest
              match skipSpace rest with
              | ',' :: rest =>
                  let (fields, rest) ← fields? fuel rest
                  return ((name, value) :: fields, rest)
              | '\x7d' :: rest => return ([(name, value)], rest)
              | _ => none
          | _ => none
      | _ => none :=
  rfl

/-- A text with a digit as its first or second character is none of the names that stand for a
value. -/
theorem keyword?_eq_none {cs : List Char} (h : (cs.take 2).any isAsciiDigit = true) :
    keyword? cs = none := by
  rw [keyword?, List.findSome?_eq_none_iff]
  intro entry hentry
  have hname : 2 ≤ entry.1.toList.length ∧ (entry.1.toList.take 2).any isAsciiDigit = false := by
    revert entry
    decide
  refine if_neg fun hprefix ↦ ?_
  obtain ⟨rest, rfl⟩ := List.isPrefixOf_iff_prefix.mp hprefix
  rw [List.take_append_of_le_length hname.1, hname.2] at h
  cases h

/-- The beginning of an integer: a digit, or a sign and a digit. -/
theorem any_take_intChars (n : Int) (rest : List Char) :
    ((intChars n ++ rest).take 2).any isAsciiDigit = true := by
  obtain ⟨c, cs, hcs⟩ := List.exists_cons_of_ne_nil (Nat.toDigits_ne_nil (n := n.natAbs) (b := 10))
  have hc : isAsciiDigit c = true :=
    isAsciiDigit_of_mem_toDigits (n := n.natAbs) (by rw [hcs]; exact List.mem_cons_self)
  rw [intChars, hcs]
  split <;> simp [hc]

/-- `StartsValue cs` says that `cs` begins with a character that is no white space and closes
nothing. -/
def StartsValue (cs : List Char) : Prop :=
  ∃ c rest, cs = c :: rest ∧ isSpace c = false ∧ c ≠ ']' ∧ c ≠ '\x7d'

theorem StartsValue.cons {c : Char} (hspace : isSpace c = false) (hbracket : c ≠ ']')
    (hbrace : c ≠ '\x7d') (rest : List Char) : StartsValue (c :: rest) :=
  ⟨c, rest, rfl, hspace, hbracket, hbrace⟩

theorem StartsValue.append {cs : List Char} (h : StartsValue cs) (rest : List Char) :
    StartsValue (cs ++ rest) := by
  obtain ⟨c, cs, rfl, hspace, hbracket, hbrace⟩ := h
  exact .cons hspace hbracket hbrace _

theorem StartsValue.skipSpace_eq {cs : List Char} (h : StartsValue cs) : skipSpace cs = cs := by
  obtain ⟨c, cs, rfl, hspace, -⟩ := h
  simp [skipSpace, hspace]

theorem head?_intChars (n : Int) :
    ∃ c cs, intChars n = c :: cs ∧ (isAsciiDigit c = true ∨ c = '-') := by
  rw [intChars]
  split
  · exact ⟨'-', _, rfl, .inr rfl⟩
  · obtain ⟨c, cs, hcs⟩ :=
      List.exists_cons_of_ne_nil (Nat.toDigits_ne_nil (n := n.natAbs) (b := 10))
    exact ⟨c, cs, hcs, .inl (isAsciiDigit_of_mem_toDigits (n := n.natAbs) (by simp [hcs]))⟩

theorem ne_of_isAsciiDigit {c d : Char} (h : isAsciiDigit c = true ∨ c = '-')
    (hd : isAsciiDigit d = false) (hsign : d ≠ '-') : c ≠ d := by
  rintro rfl
  obtain h | h := h
  · simp [hd] at h
  · exact hsign h

/-- `ReadsAs json cs` says that `cs` begins as a value does, and that `json` is read from any text
that begins with `cs` and goes on behind it as a text with a value does. -/
structure ReadsAs (json : Json) (cs : List Char) : Prop where
  starts : StartsValue cs
  reads : ∀ ⦃fuel : Nat⦄ ⦃rest : List Char⦄, cs.length < fuel → EndsValue rest →
    value? fuel (cs ++ rest) = some (json, rest)

theorem readsAs_null : ReadsAs null "null".toList where
  starts := .cons rfl (by decide) (by decide) _
  reads := by
    intro fuel rest hfuel hrest
    obtain ⟨fuel, rfl⟩ := Nat.exists_eq_add_one.mpr (Nat.zero_lt_of_lt hfuel)
    rfl

theorem readsAs_bool (value : Bool) :
    ReadsAs (.bool value) (if value then "true".toList else "false".toList) where
  starts := by cases value <;> exact .cons rfl (by decide) (by decide) _
  reads := by
    intro fuel rest hfuel hrest
    obtain ⟨fuel, rfl⟩ := Nat.exists_eq_add_one.mpr (Nat.zero_lt_of_lt hfuel)
    cases value <;> rfl

theorem Spells.readsAs_text {escape : Char → List Char} (h : Spells escape) (value : String) :
    ReadsAs (.text value) (stringWith escape value) where
  starts := .cons rfl (by decide) (by decide) _
  reads := by
    intro fuel rest hfuel hrest
    obtain ⟨fuel, rfl⟩ := Nat.exists_eq_add_one.mpr (Nat.zero_lt_of_lt hfuel)
    have hread := h.string? value rest
    have htext : stringWith escape value ++ rest =
        '\"' :: (value.toList.flatMap escape ++ '\"' :: rest) := by
      simp [stringWith]
    rw [htext, value?_succ]
    simp [skipSpace, isSpace, hread]

theorem readsAs_int (value : Int) : ReadsAs (.int value) (intChars value) := by
  obtain ⟨c, cs, hcs, hc⟩ := head?_intChars value
  have hne {d : Char} := ne_of_isAsciiDigit (d := d) hc
  have hspace : isSpace c = false := by
    simp only [isSpace, Bool.or_eq_false_iff, beq_eq_false_iff_ne]
    exact ⟨⟨⟨hne rfl (by decide), hne rfl (by decide)⟩, hne rfl (by decide)⟩, hne rfl (by decide)⟩
  have hstarts : StartsValue (intChars value) := by
    rw [hcs]
    exact .cons hspace (hne rfl (by decide)) (hne rfl (by decide)) cs
  refine ⟨hstarts, fun fuel rest hfuel hrest ↦ ?_⟩
  obtain ⟨fuel, rfl⟩ := Nat.exists_eq_add_one.mpr (Nat.zero_lt_of_lt hfuel)
  have hskip := (hstarts.append rest).skipSpace_eq
  have hkeyword := keyword?_eq_none (any_take_intChars value rest)
  have hnumber := number?_intChars value hrest
  rw [hcs, List.cons_append] at hskip hkeyword hnumber ⊢
  rw [value?_succ, hskip]
  split
  · next heq => exact absurd (List.cons.inj heq).1 (hne rfl (by decide))
  · next heq => exact absurd (List.cons.inj heq).1 (hne rfl (by decide))
  · next heq => exact absurd (List.cons.inj heq).1 (hne rfl (by decide))
  · rw [hkeyword, hnumber]

/-! ## Arrays and objects -/

/-- White space before a value is passed over, and before the first of several items as well. -/
theorem value?_spaces {spaces : List Char} (h : IsSpaces spaces) (fuel : Nat) (cs : List Char) :
    value? fuel (spaces ++ cs) = value? fuel cs := by
  cases fuel with
  | zero => rfl
  | succ fuel => simp only [value?_succ, h.skipSpace_append]

theorem items?_spaces {spaces : List Char} (h : IsSpaces spaces) (fuel : Nat) (cs : List Char) :
    items? fuel (spaces ++ cs) = items? fuel cs := by
  cases fuel with
  | zero => rfl
  | succ fuel => simp only [items?_succ, value?_spaces h]

theorem fields?_spaces {spaces : List Char} (h : IsSpaces spaces) (fuel : Nat) (cs : List Char) :
    fields? fuel (spaces ++ cs) = fields? fuel cs := by
  cases fuel with
  | zero => rfl
  | succ fuel => simp only [fields?_succ, h.skipSpace_append]

section Steps

variable {fuel : Nat} {cs tail rest : List Char}

theorem items?_last {item : Json} (h : value? fuel cs = some (item, tail))
    (hend : skipSpace tail = ']' :: rest) : items? (fuel + 1) cs = some ([item], rest) := by
  simp [items?_succ, h, hend]

theorem items?_more {item : Json} {items : List Json} {more : List Char}
    (h : value? fuel cs = some (item, tail)) (hcomma : skipSpace tail = ',' :: more)
    (hmore : items? fuel more = some (items, rest)) :
    items? (fuel + 1) cs = some (item :: items, rest) := by
  simp [items?_succ, h, hcomma, hmore]

/-- A field is read from behind the quotation mark that its name begins with. -/
theorem fields?_last {name : String} {value : Json} {body : List Char}
    (hname : string? cs = some (name, ':' :: body))
    (h : value? fuel body = some (value, tail)) (hend : skipSpace tail = '\x7d' :: rest) :
    fields? (fuel + 1) ('\"' :: cs) = some ([(name, value)], rest) := by
  have hquote : skipSpace ('\"' :: cs) = '\"' :: cs := rfl
  have hcolon : skipSpace (':' :: body) = ':' :: body := rfl
  simp [fields?_succ, hquote, hname, hcolon, h, hend]

theorem fields?_more {name : String} {value : Json} {fields : List (String × Json)}
    {body more : List Char} (hname : string? cs = some (name, ':' :: body))
    (h : value? fuel body = some (value, tail)) (hcomma : skipSpace tail = ',' :: more)
    (hmore : fields? fuel more = some (fields, rest)) :
    fields? (fuel + 1) ('\"' :: cs) = some ((name, value) :: fields, rest) := by
  have hquote : skipSpace ('\"' :: cs) = '\"' :: cs := rfl
  have hcolon : skipSpace (':' :: body) = ':' :: body := rfl
  simp [fields?_succ, hquote, hname, hcolon, h, hcomma, hmore]

/-- An array that is not empty is read item by item. -/
theorem value?_array {items : List Json} {spaces : List Char} (hspaces : IsSpaces spaces)
    (hstart : StartsValue cs) (h : items? fuel cs = some (items, rest)) :
    value? (fuel + 1) ('[' :: (spaces ++ cs)) = some (.array items, rest) := by
  have hopen : skipSpace ('[' :: (spaces ++ cs)) = '[' :: (spaces ++ cs) := rfl
  have hskip := (hspaces.skipSpace_append cs).trans hstart.skipSpace_eq
  obtain ⟨c, cs, rfl, -, hbracket, -⟩ := hstart
  simp only [value?_succ, hopen, hskip]
  split
  · next heq => exact absurd (List.cons.inj heq).1 hbracket
  · rw [h]
    rfl

theorem value?_object {fields : List (String × Json)} {spaces : List Char}
    (hspaces : IsSpaces spaces) (hstart : StartsValue cs)
    (h : fields? fuel cs = some (fields, rest)) :
    value? (fuel + 1) ('\x7b' :: (spaces ++ cs)) = some (.object fields, rest) := by
  have hopen : skipSpace ('\x7b' :: (spaces ++ cs)) = '\x7b' :: (spaces ++ cs) := rfl
  have hskip := (hspaces.skipSpace_append cs).trans hstart.skipSpace_eq
  obtain ⟨c, cs, rfl, -, -, hbrace⟩ := hstart
  simp only [value?_succ, hopen, hskip]
  split
  · next heq => exact absurd (List.cons.inj heq).1 hbrace
  · rw [h]
    rfl

end Steps

/-- `ItemsReadAs items cs` says that `items` are read from any text that begins with `cs`, which
ends with the bracket behind them. -/
structure ItemsReadAs (items : List Json) (cs : List Char) : Prop where
  starts : StartsValue cs
  reads : ∀ ⦃fuel : Nat⦄ (rest : List Char), cs.length < fuel →
    items? fuel (cs ++ rest) = some (items, rest)

/-- `FieldsReadAs fields cs` says that `fields` are read from any text that begins with `cs`, which
ends with the brace behind them. -/
structure FieldsReadAs (fields : List (String × Json)) (cs : List Char) : Prop where
  starts : StartsValue cs
  reads : ∀ ⦃fuel : Nat⦄ (rest : List Char), cs.length < fuel →
    fields? fuel (cs ++ rest) = some (fields, rest)

section

variable {item value : Json} {items : List Json} {fields : List (String × Json)} {name : String}
  {escape : Char → List Char} {cs ds spaces behind next : List Char}

theorem ReadsAs.last (h : ReadsAs item cs) (hbehind : IsSpaces behind) :
    ItemsReadAs [item] (cs ++ (behind ++ [']'])) where
  starts := h.starts.append _
  reads := by
    intro fuel rest hfuel
    obtain ⟨fuel, rfl⟩ := Nat.exists_eq_add_one.mpr (Nat.zero_lt_of_lt hfuel)
    simp only [List.length_append, List.length_singleton] at hfuel
    simp only [List.append_assoc, List.cons_append, List.nil_append]
    exact items?_last (h.reads (by omega) (hbehind.endsValue (.cons (by decide) rest)))
      (hbehind.skipSpace_append _)

theorem ReadsAs.more (h : ReadsAs item cs) (hbehind : IsSpaces behind) (hnext : IsSpaces next)
    (hmore : ItemsReadAs items ds) :
    ItemsReadAs (item :: items) (cs ++ (behind ++ ',' :: (next ++ ds))) where
  starts := h.starts.append _
  reads := by
    intro fuel rest hfuel
    obtain ⟨fuel, rfl⟩ := Nat.exists_eq_add_one.mpr (Nat.zero_lt_of_lt hfuel)
    simp only [List.length_append, List.length_cons] at hfuel
    simp only [List.append_assoc, List.cons_append]
    have hitems : items? fuel (next ++ (ds ++ rest)) = some (items, rest) := by
      rw [items?_spaces hnext, hmore.reads rest (by omega)]
    exact items?_more (h.reads (by omega) (hbehind.endsValue (.cons (by decide) _)))
      (hbehind.skipSpace_append _) hitems

theorem readsAs_array_nil : ReadsAs (.array []) ['[', ']'] where
  starts := .cons rfl (by decide) (by decide) _
  reads := by
    intro fuel rest hfuel hrest
    obtain ⟨fuel, rfl⟩ := Nat.exists_eq_add_one.mpr (Nat.zero_lt_of_lt hfuel)
    rfl

theorem ItemsReadAs.array (h : ItemsReadAs items cs) (hspaces : IsSpaces spaces) :
    ReadsAs (.array items) ('[' :: (spaces ++ cs)) where
  starts := .cons rfl (by decide) (by decide) _
  reads := by
    intro fuel rest hfuel hrest
    obtain ⟨fuel, rfl⟩ := Nat.exists_eq_add_one.mpr (Nat.zero_lt_of_lt hfuel)
    simp only [List.length_cons, List.length_append] at hfuel
    rw [List.cons_append, List.append_assoc]
    exact value?_array hspaces (h.starts.append rest) (h.reads rest (by omega))

/-- The last field, with white space before its value and behind it. -/
theorem ReadsAs.lastField (h : ReadsAs value cs) (hescape : Spells escape)
    (hspaces : IsSpaces spaces) (hbehind : IsSpaces behind) :
    FieldsReadAs [(name, value)]
      (stringWith escape name ++ ':' :: (spaces ++ (cs ++ (behind ++ ['\x7d'])))) where
  starts := .cons rfl (by decide) (by decide) _
  reads := by
    intro fuel rest hfuel
    obtain ⟨fuel, rfl⟩ := Nat.exists_eq_add_one.mpr (Nat.zero_lt_of_lt hfuel)
    simp only [List.length_append, List.length_cons] at hfuel
    simp only [stringWith, List.append_assoc, List.cons_append, List.nil_append]
    have hvalue := (value?_spaces hspaces fuel _).trans
      (h.reads (by omega) (hbehind.endsValue (.cons (c := '\x7d') (by decide) rest)))
    exact fields?_last (hescape.string? name _) hvalue (hbehind.skipSpace_append _)

theorem ReadsAs.moreFields (h : ReadsAs value cs) (hescape : Spells escape)
    (hspaces : IsSpaces spaces) (hbehind : IsSpaces behind) (hnext : IsSpaces next)
    (hmore : FieldsReadAs fields ds) :
    FieldsReadAs ((name, value) :: fields)
      (stringWith escape name ++ ':' :: (spaces ++ (cs ++ (behind ++ ',' :: (next ++ ds))))) where
  starts := .cons rfl (by decide) (by decide) _
  reads := by
    intro fuel rest hfuel
    obtain ⟨fuel, rfl⟩ := Nat.exists_eq_add_one.mpr (Nat.zero_lt_of_lt hfuel)
    simp only [List.length_append, List.length_cons] at hfuel
    simp only [stringWith, List.append_assoc, List.cons_append, List.nil_append]
    have hfields : fields? fuel (next ++ (ds ++ rest)) = some (fields, rest) := by
      rw [fields?_spaces hnext, hmore.reads rest (by omega)]
    have hvalue := (value?_spaces hspaces fuel _).trans
      (h.reads (by omega) (hbehind.endsValue (.cons (c := ',') (by decide) (next ++ (ds ++ rest)))))
    exact fields?_more (hescape.string? name _) hvalue (hbehind.skipSpace_append _) hfields

theorem readsAs_object_nil : ReadsAs (.object []) ['\x7b', '\x7d'] where
  starts := .cons rfl (by decide) (by decide) _
  reads := by
    intro fuel rest hfuel hrest
    obtain ⟨fuel, rfl⟩ := Nat.exists_eq_add_one.mpr (Nat.zero_lt_of_lt hfuel)
    rfl

theorem FieldsReadAs.object (h : FieldsReadAs fields cs) (hspaces : IsSpaces spaces) :
    ReadsAs (.object fields) ('\x7b' :: (spaces ++ cs)) where
  starts := .cons rfl (by decide) (by decide) _
  reads := by
    intro fuel rest hfuel hrest
    obtain ⟨fuel, rfl⟩ := Nat.exists_eq_add_one.mpr (Nat.zero_lt_of_lt hfuel)
    simp only [List.length_cons, List.length_append] at hfuel
    rw [List.cons_append, List.append_assoc]
    exact value?_object hspaces (h.starts.append rest) (h.reads rest (by omega))

/-- A whole text may end with white space. -/
theorem ReadsAs.readChars? (h : ReadsAs value cs) (hbehind : IsSpaces behind) :
    readChars? (cs ++ behind) = some value := by
  have hends : EndsValue behind := by
    have hends := hbehind.endsValue .nil
    rwa [List.append_nil] at hends
  have hread : value? ((cs ++ behind).length + 1) (cs ++ behind) = some (value, behind) :=
    h.reads (by rw [List.length_append]; omega) hends
  have hend : skipSpace behind = [] := by
    have hskip := hbehind.skipSpace_append []
    rwa [List.append_nil] at hskip
  simp only [Json.readChars?, hread, hend]
  rfl

end

/-! ## The compact form -/

end AssistedDialing.Json
