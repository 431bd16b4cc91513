import AssistedDialing.Proofs.JsonReading

/-!
# Reading the indented form back

The indented form holds only ASCII characters. A character beyond them is written as one code unit,
or as the two halves of a surrogate pair, and is read back from these as the same character. The
form puts line ends between the parts of a value and sorts the fields of its objects, so that an
exact value is read back with sorted fields (`read?_indented`).
-/

namespace AssistedDialing.Json

open Text

/-! ## Escapes of ASCII strings -/

/-- An escaped code unit that is no half of a pair is read as its character. -/
theorem escaped?_unit {c : Char} (h : c.toNat < 0x10000) (rest : List Char) :
    escaped? ('u' :: (hexDigits 4 c.toNat ++ rest)) = some (c, rest) := by
  -- a character is never half of a pair
  have hhalf : isHigh c.toNat = false ∧ isLow c.toNat = false := by
    have hvalid : c.toNat < 0xD800 ∨ 0xDFFF < c.toNat ∧ c.toNat < 0x110000 := c.valid
    simp only [isHigh, isLow, Bool.and_eq_false_iff, decide_eq_false_iff_not]
    omega
  simp [escaped?, unit?_hexDigits h, hhalf.1, hhalf.2, unitChar]

/-- The two halves of a pair are read as one character. -/
theorem escaped?_pair {high low : Nat} (hhigh : isHigh high = true) (hlow : isLow low = true)
    (rest : List Char) :
    escaped? ('u' :: (hexDigits 4 high ++ (escapedUnit low ++ rest))) =
      some (Char.ofNat (0x10000 + (high - 0xD800) * 0x400 + (low - 0xDC00)), rest) := by
  obtain ⟨-, hhigh'⟩ : 0xD800 ≤ high ∧ high < 0xDC00 := by simpa [isHigh] using hhigh
  obtain ⟨-, hlow'⟩ : 0xDC00 ≤ low ∧ low < 0xE000 := by simpa [isLow] using hlow
  have hfirst (rest : List Char) := unit?_hexDigits (Nat.lt_trans hhigh' (by decide)) rest
  have hsecond := unit?_hexDigits (Nat.lt_trans hlow' (by decide)) rest
  simp [escaped?, escapedUnit, hfirst, hsecond, hhigh, hlow]

/-- A character beyond 16 bits is the one that is read from its pair. -/
theorem exists_pair {c : Char} (h : 0x10000 ≤ c.toNat) :
    ∃ high low, asciiChar c = escapedUnit high ++ escapedUnit low ∧ isHigh high = true ∧
      isLow low = true ∧ Char.ofNat (0x10000 + (high - 0xD800) * 0x400 + (low - 0xDC00)) = c := by
  have hvalid : c.toNat < 0xD800 ∨ 0xDFFF < c.toNat ∧ c.toNat < 0x110000 := c.valid
  refine ⟨0xD800 + (c.toNat - 0x10000) / 0x400, 0xDC00 + (c.toNat - 0x10000) % 0x400,
    ?_, ?_, ?_, ?_⟩
  · rw [asciiChar, if_neg (by omega), if_neg (by omega)]
  -- the offset has 20 bits, so that each half takes ten
  · simp only [isHigh, Bool.and_eq_true, decide_eq_true_eq]
    omega
  · simp only [isLow, Bool.and_eq_true, decide_eq_true_eq]
    omega
  · generalize hhigh : 0xD800 + (c.toNat - 0x10000) / 0x400 = high
    generalize hlow : 0xDC00 + (c.toNat - 0x10000) % 0x400 = low
    have hcode : 0x10000 + (high - 0xD800) * 0x400 + (low - 0xDC00) = c.toNat := by omega
    rw [hcode, Char.ofNat_toNat]

theorem asciiChar_ne_nil (c : Char) : asciiChar c ≠ [] := by
  rw [asciiChar]
  split
  · exact escapedChar_ne_nil c
  · split <;> simp [escapedUnit]

theorem stringBody?_asciiChar (fuel : Nat) (c : Char) (rest : List Char) :
    stringBody? (fuel + 1) (asciiChar c ++ rest) =
      (stringBody? fuel rest).map fun read ↦ (c :: read.1, read.2) := by
  by_cases hpair : 0x10000 ≤ c.toNat
  · obtain ⟨high, low, hwritten, hhigh, hlow, hchar⟩ := exists_pair hpair
    have hread := escaped?_pair hhigh hlow rest
    rw [hchar] at hread
    rw [hwritten, List.append_assoc]
    exact stringBody?_backslash fuel hread
  · have hunit : c.toNat < 0x10000 := Nat.lt_of_not_le hpair
    rw [asciiChar, if_pos hunit]
    split
    · exact stringBody?_escapedChar fuel c rest
    · exact stringBody?_backslash fuel (escaped?_unit hunit rest)

theorem spells_asciiChar : Spells asciiChar :=
  ⟨asciiChar_ne_nil, stringBody?_asciiChar⟩

/-! ## Values -/

theorem isSpaces_newLine (depth : Nat) : IsSpaces (newLine depth) := by
  intro c hc
  obtain rfl | hc := List.mem_cons.mp hc
  · rfl
  · rw [List.eq_of_mem_replicate hc]
    rfl

section

variable {depth : Nat}

/-- An item is read with all that are written behind it. -/
theorem itemsReadAs_indentedItems {item : Json} {items : List Json}
    (h : ∀ value ∈ item :: items, ReadsAs value (indentedChars (depth + 1) value)) :
    ItemsReadAs (item :: items)
      (indentedChars (depth + 1) item ++ indentedItems depth items) := by
  induction items generalizing item with
  | nil => exact (h item List.mem_cons_self).last (isSpaces_newLine depth)
  | cons next items ih =>
      have hmore := ih fun value hmem ↦ h value (List.mem_cons_of_mem _ hmem)
      have hitem := (h item List.mem_cons_self).more .nil (isSpaces_newLine (depth + 1)) hmore
      simpa [indentedItems] using hitem

theorem fieldsReadAs_indentedFields {field : String × Json} {fields : List (String × Json)}
    (h : ∀ entry ∈ field :: fields, ReadsAs entry.2 (indentedChars (depth + 1) entry.2)) :
    FieldsReadAs (field :: fields)
      (stringWith asciiChar field.1 ++ ':' :: ' ' ::
        (indentedChars (depth + 1) field.2 ++ indentedFields depth fields)) := by
  have hspace : IsSpaces [' '] := by simp [IsSpaces, isSpace]
  induction fields generalizing field with
  | nil =>
      exact (h field List.mem_cons_self).lastField spells_asciiChar hspace (isSpaces_newLine depth)
  | cons next fields ih =>
      have hmore := ih fun entry hmem ↦ h entry (List.mem_cons_of_mem _ hmem)
      have hfield : FieldsReadAs (field :: next :: fields) _ :=
        (h field List.mem_cons_self).moreFields spells_asciiChar hspace .nil
          (isSpaces_newLine (depth + 1)) hmore
      simpa [indentedFields] using hfield

end

theorem Exact.readsAs_indentedChars {json : Json} (h : json.Exact) (depth : Nat) :
    ReadsAs json (indentedChars depth json) := by
  induction h generalizing depth with
  | null => exact readsAs_null
  | bool value => exact readsAs_bool value
  | int value => exact readsAs_int value
  | text value => exact spells_asciiChar.readsAs_text value
  | @array items _ ih =>
      cases items with
      | nil => exact readsAs_array_nil
      | cons item items =>
          have hitems := itemsReadAs_indentedItems fun value hmem ↦ ih value hmem (depth + 1)
          simpa [indentedChars] using hitems.array (isSpaces_newLine (depth + 1))
  | @object fields _ ih =>
      cases fields with
      | nil => exact readsAs_object_nil
      | cons field fields =>
          have hfields := fieldsReadAs_indentedFields fun field hmem ↦ ih field hmem (depth + 1)
          simpa [indentedChars] using hfields.object (isSpaces_newLine (depth + 1))

/-! ## Sorted fields -/

theorem sortedItems_eq_map (items : List Json) : sortedItems items = items.map sorted := by
  induction items with
  | nil => rfl
  | cons item items ih => rw [sortedItems, ih, List.map_cons]

theorem sortedFields_eq_map (fields : List (String × Json)) :
    sortedFields fields = fields.map fun field ↦ (field.1, field.2.sorted) := by
  induction fields with
  | nil => rfl
  | cons field fields ih => rw [sortedFields, ih, List.map_cons]

/-- Sorting the fields adds no value. -/
theorem Exact.sorted {json : Json} (h : json.Exact) : json.sorted.Exact := by
  induction h with
  | null => exact .null
  | bool value => exact .bool value
  | int value => exact .int value
  | text value => exact .text value
  | @array items _ ih =>
      rw [Json.sorted, sortedItems_eq_map]
      exact .array (List.forall_mem_map.mpr ih)
  | @object fields _ ih =>
      rw [Json.sorted, sortedFields_eq_map]
      -- the order of the fields changes, but not what they are
      refine .object fun field hmem ↦ ?_
      obtain ⟨field, hfield, rfl⟩ := List.mem_map.mp ((List.mergeSort_perm _ _).mem_iff.mp hmem)
      exact ih field hfield

/-- The indented form of an exact value reads back as the value with sorted fields, also with white
space behind it. -/
theorem read?_indented {json : Json} (h : json.Exact) {behind : String}
    (hbehind : IsSpaces behind.toList) : read? (json.indented ++ behind) = some json.sorted := by
  have hread := (h.sorted.readsAs_indentedChars 0).readChars? hbehind
  rw [read?, String.toList_append, indented, String.toList_ofList, hread]

end AssistedDialing.Json
