import AssistedDialing.Country.Table
import AssistedDialing.Proofs.CommaLists
import Mathlib.Data.List.DropRight
import Mathlib.Data.String.Basic

/-!
# What a table of countries holds

A table is built entry by entry, and `Draft.foldl_enter` says what becomes of a draft over any
entries: the codes of the well-formed ones are inserted, and the malformed ones are reported. The
test on a normalised code also lets a line feed pass at its end, but a normalised code ends with no
blank, so that it only passes two capital letters (`isCodeLine_normalize`). `represents_entries`
says from the entries alone which codes a table has, in which order they stand, which queries it
supports, and what is logged.
-/

namespace AssistedDialing.Country

open Text

/-! ## Normalised codes -/

/-- A trimmed text ends with no blank. -/
theorem not_isBlank_getLast_trim {cs : List Char} (h : trim cs ≠ []) :
    ¬ isBlank ((trim cs).getLast h) = true :=
  List.rdropWhile_last_not isBlank (trimStart cs) h

theorem toList_normalize (entry : Option String) :
    (normalize entry).toList = trim (upperChars (entry.getD "").toList) := by
  rw [trim_upperChars]
  exact toList_normalizeText _

/-- A normalised code that is a line of two capital letters has no line feed at its end. -/
theorem isCodeLine_normalize (entry : Option String) :
    isCodeLine (normalize entry) = isWellFormed (normalize entry) := by
  have hlast (h : (normalize entry).toList ≠ []) :
      ¬ isBlank ((normalize entry).toList.getLast h) = true := by
    simp only [toList_normalize] at h ⊢
    exact not_isBlank_getLast_trim h
  unfold isCodeLine isWellFormed
  generalize (normalize entry).toList = cs at hlast
  match cs, hlast with
  | [], _ | [_], _ | _ :: _ :: _ :: _ :: _, _ => simp [isLineEnd]
  | [_, _], _ => simp [isLineEnd]
  | [_, _, c], hlast =>
      have hc : c ≠ '\n' := by
        rintro rfl
        exact hlast (List.cons_ne_nil _ _) rfl
      simp [isLineEnd, hc]

theorem isWellFormed_iff {code : String} :
    isWellFormed code = true ↔
      ∃ a b, code.toList = [a, b] ∧ isCapital a = true ∧ isCapital b = true := by
  unfold isWellFormed
  split
  · next a b hcode => simp [hcode]
  · next hother =>
    constructor
    · exact fun h ↦ absurd h Bool.false_ne_true
    · rintro ⟨a, b, hcode, -⟩
      exact absurd hcode (hother a b)

@[simp] theorem isWellFormed_empty : isWellFormed "" = false := rfl

theorem ignoresBlanks_normalizeText : IgnoresBlanks normalizeText := by
  intro lead cs trail hlead htrail
  rw [normalizeText, normalizeText, ignoresBlanks_strip lead cs trail hlead htrail]

theorem normalizeText_upper (code : String) : normalizeText (upper code) = normalizeText code := by
  apply String.ext
  simp only [toList_normalizeText, toList_upper, normalizeChars]
  rw [trim_upperChars, upperChars_upperChars]

theorem normalize_upper (code : Option String) :
    normalize (some (upper (code.getD ""))) = normalize code :=
  normalizeText_upper (code.getD "")

/-- Texts that agree in upper case are normalised to the same code. -/
theorem normalize_congr {code other : Option String}
    (h : upper (code.getD "") = upper (other.getD "")) : normalize code = normalize other := by
  rw [← normalize_upper code, h, normalize_upper]

/-! ## Insertion -/

theorem mem_insertCode {code other : String} {codes : List String} :
    other ∈ insertCode code codes ↔ other = code ∨ other ∈ codes := by
  induction codes with
  | nil => simp [insertCode]
  | cons first codes ih =>
      rw [insertCode]
      split
      · exact List.mem_cons
      · split
        · next hsame => simp [hsame]
        · simp only [List.mem_cons, ih, or_left_comm]

/-- Insertion keeps the codes in ascending order. -/
theorem pairwise_insertCode {code : String} {codes : List String} (h : codes.Pairwise (· < ·)) :
    (insertCode code codes).Pairwise (· < ·) := by
  induction codes with
  | nil => exact List.pairwise_singleton _ _
  | cons first codes ih =>
      obtain ⟨hfirst, hcodes⟩ := List.pairwise_cons.mp h
      rw [insertCode]
      split
      · next hless =>
        refine List.pairwise_cons.mpr ⟨fun other hother ↦ ?_, h⟩
        obtain rfl | hother := List.mem_cons.mp hother
        · exact hless
        · exact lt_trans hless (hfirst other hother)
      · next hless =>
        split
        · exact h
        · next hne =>
          refine List.pairwise_cons.mpr ⟨fun other hother ↦ ?_, ih hcodes⟩
          obtain rfl | hother := mem_insertCode.mp hother
          · exact lt_of_le_of_ne (not_lt.mp hless) (Ne.symm hne)
          · exact hfirst other hother

/-- `insertAll codes more` inserts the codes of `more` one by one. -/
def insertAll (codes more : List String) : List String :=
  more.foldl (fun codes code ↦ insertCode code codes) codes

theorem mem_insertAll {other : String} {codes more : List String} :
    other ∈ insertAll codes more ↔ other ∈ codes ∨ other ∈ more := by
  induction more generalizing codes with
  | nil => simp [insertAll]
  | cons code more ih =>
      have hcons : insertAll codes (code :: more) = insertAll (insertCode code codes) more := rfl
      rw [hcons, ih, mem_insertCode, List.mem_cons, or_assoc, or_left_comm]

theorem pairwise_insertAll {codes more : List String} (h : codes.Pairwise (· < ·)) :
    (insertAll codes more).Pairwise (· < ·) := by
  induction more generalizing codes with
  | nil => exact h
  | cons code more ih => exact ih (pairwise_insertCode h)

/-! ## Drafts -/

namespace Draft

/-- What becomes of a draft over one entry: a well-formed entry gives its code, and a malformed one
its warning. -/
theorem enter_eq (draft : Draft) (entry : Option String) :
    draft.enter entry =
      { codes := insertAll draft.codes ([normalize entry].filter isWellFormed)
        warnings := draft.warnings ++ ([entry].filter isMalformed).map malformedEntry } := by
  have hline := isCodeLine_normalize entry
  rw [enter]
  by_cases hblank : normalize entry = ""
  · simp [hblank, isMalformed, insertAll]
  · cases hformed : isWellFormed (normalize entry) <;>
      simp [hblank, hline, hformed, isMalformed, insertAll]

/-- What becomes of a draft over any entries. -/
theorem foldl_enter (draft : Draft) (entries : List (Option String)) :
    entries.foldl enter draft =
      { codes := insertAll draft.codes ((entries.map normalize).filter isWellFormed)
        warnings := draft.warnings ++ (entries.filter isMalformed).map malformedEntry } := by
  induction entries generalizing draft with
  | nil => simp [insertAll]
  | cons entry entries ih =>
      have hcodes : ((entry :: entries).map normalize).filter isWellFormed =
          [normalize entry].filter isWellFormed ++
            (entries.map normalize).filter isWellFormed := by
        rw [List.map_cons, ← List.singleton_append, List.filter_append]
      have hwarnings : ((entry :: entries).filter isMalformed).map malformedEntry =
          ([entry].filter isMalformed).map malformedEntry ++
            (entries.filter isMalformed).map malformedEntry := by
        rw [← List.singleton_append, List.filter_append, List.map_append]
      rw [List.foldl_cons, ih, enter_eq, hcodes, hwarnings]
      simp only [insertAll, List.foldl_append, List.append_assoc]

theorem ofEntries_eq (entries : List (Option String)) :
    ofEntries entries =
      { codes := insertAll [] ((entries.map normalize).filter isWellFormed)
        warnings := (entries.filter isMalformed).map malformedEntry } :=
  foldl_enter {} entries

end Draft

/-! ## Tables -/

namespace Table

variable {entries : List (Option String)}

theorem warnings_eq (entries : List (Option String)) :
    warnings entries = (entries.filter isMalformed).map malformedEntry := by
  rw [warnings, Draft.ofEntries_eq]

/-- A table depends on the normalised entries only. -/
theorem ofEntries_congr {others : List (Option String)}
    (h : entries.map normalize = others.map normalize) : ofEntries entries = ofEntries others := by
  rw [ofEntries, ofEntries, Draft.ofEntries_eq, Draft.ofEntries_eq, h]

/-- The codes of a table are the well-formed ones among the normalised entries. -/
theorem mem_codes_ofEntries {code : String} :
    code ∈ (ofEntries entries).codes ↔
      ∃ entry ∈ entries, normalize entry = code ∧ isWellFormed (normalize entry) = true := by
  rw [ofEntries, Draft.ofEntries_eq, mem_insertAll, List.mem_filter, List.mem_map]
  constructor
  · rintro (hnil | ⟨⟨entry, hentry, rfl⟩, hformed⟩)
    · cases hnil
    · exact ⟨entry, hentry, rfl, hformed⟩
  · rintro ⟨entry, hentry, rfl, hformed⟩
    exact .inr ⟨⟨entry, hentry, rfl⟩, hformed⟩

theorem pairwise_codes_ofEntries (entries : List (Option String)) :
    (ofEntries entries).codes.Pairwise (· < ·) := by
  rw [ofEntries, Draft.ofEntries_eq]
  exact pairwise_insertAll .nil

theorem isWellFormed_of_mem_codes {code : String} (h : code ∈ (ofEntries entries).codes) :
    isWellFormed code = true := by
  obtain ⟨entry, -, rfl, hformed⟩ := mem_codes_ofEntries.mp h
  exact hformed

/-- A query is supported when its normalised form is that of a well-formed entry. -/
theorem isSupported_ofEntries_iff {query : Option String} :
    (ofEntries entries).isSupported query = true ↔
      ∃ entry ∈ entries, isWellFormed (normalize entry) = true ∧
        normalize entry = normalize query := by
  rw [isSupported, Bool.and_eq_true, List.contains_iff_mem, mem_codes_ofEntries]
  constructor
  · rintro ⟨-, entry, hentry, hsame, hformed⟩
    exact ⟨entry, hentry, hformed, hsame⟩
  · rintro ⟨entry, hentry, hformed, hsame⟩
    refine ⟨?_, entry, hentry, hsame, hformed⟩
    -- the empty text is no code
    rw [decide_eq_true_eq, ← hsame]
    intro hempty
    simp [hempty] at hformed

/-- Support depends on the normalised query only. -/
theorem isSupported_congr {table : Table} {query other : Option String}
    (h : normalize query = normalize other) :
    table.isSupported query = table.isSupported other := by
  rw [isSupported, isSupported, h]

theorem isSupported_of_normalize_eq_empty {table : Table} {query : Option String}
    (h : normalize query = "") : table.isSupported query = false := by
  simp [isSupported, h]

/-- The entries alone tell what a table is. Its codes are the normalised entries that consist of two
capital letters, in ascending order, each of them once. It supports the queries with the normalised
form of such an entry, so that queries that agree in upper case are treated alike, blanks around a
query do not count, and no blank query is supported. A warning that shows the entry is logged for
each one that is neither blank nor well-formed, in the order of the entries, and for no other. -/
theorem represents_entries (entries : List (Option String)) :
    let table := ofEntries entries
    (∀ code, code ∈ table.codes ↔
      ∃ entry ∈ entries, normalize entry = code ∧ isWellFormed (normalize entry) = true) ∧
      (∀ code ∈ table.codes, ∃ a b, code.toList = [a, b] ∧ isCapital a = true ∧
        isCapital b = true) ∧
      table.codes.Pairwise (· < ·) ∧
      (∀ query, table.isSupported query = true ↔
        ∃ entry ∈ entries, isWellFormed (normalize entry) = true ∧
          normalize entry = normalize query) ∧
      (∀ query other : String, upper query = upper other →
        table.isSupported (some query) = table.isSupported (some other)) ∧
      (∀ lead query trail : List Char, (∀ c ∈ lead, isBlank c = true) →
        (∀ c ∈ trail, isBlank c = true) →
        table.isSupported (some (String.ofList (lead ++ (query ++ trail)))) =
          table.isSupported (some (String.ofList query))) ∧
      table.isSupported none = false ∧
      (∀ query : String, (∀ c ∈ query.toList, isBlank c = true) →
        table.isSupported (some query) = false) ∧
      warnings entries =
        (entries.filter fun entry ↦ normalize entry ≠ "" && !isWellFormed (normalize entry)).map
          fun entry ↦
            { level := Log.Level.warning
              logger := "assistdial.countries"
              message := "Ignoring malformed country code in allow-list: " ++
                quoted (entry.getD "") } := by
  refine ⟨fun code ↦ mem_codes_ofEntries, fun code hcode ↦ ?_, pairwise_codes_ofEntries entries,
    fun query ↦ isSupported_ofEntries_iff, fun query other hupper ↦ ?_,
    fun lead query trail hlead htrail ↦ ?_, ?_, fun query hblank ↦ ?_, warnings_eq entries⟩
  · exact isWellFormed_iff.mp (isWellFormed_of_mem_codes hcode)
  · exact isSupported_congr (normalize_congr hupper)
  · exact isSupported_congr (ignoresBlanks_normalizeText lead query trail hlead htrail)
  · exact isSupported_of_normalize_eq_empty rfl
  · have hnothing := ignoresBlanks_normalizeText query.toList [] [] hblank (by simp)
    rw [List.nil_append, List.append_nil, String.ofList_toList] at hnothing
    exact isSupported_of_normalize_eq_empty hnothing

end Table

end AssistedDialing.Country
