import AssistedDialing.Proofs.CountryLists
import AssistedDialing.Proofs.Stripping
import AssistedDialing.Settings.ItemList

/-!
# Lists of items

The items of a comma-separated text are its stripped pieces that are not blank. Texts are joined
with commas as their lists of items are appended, and the lists of items are exactly those of
non-empty stripped texts without commas (`IsItem`), which can be written with commas between them
and read again. A list that is given item by item agrees with its joined text exactly when no item
has a comma (`ItemList.items_laws`).
-/

namespace AssistedDialing

open Text

namespace Text

/-- `IsItem text` says that a text can be an item of a comma-separated text. -/
structure IsItem (text : String) : Prop extends IsStripped text where
  ne_empty : text ≠ ""
  no_comma : ',' ∉ text.toList

theorem stripped_eq_kept (parts : List String) : stripped parts = kept strip parts := rfl

/-- The pieces of a text have no commas. -/
theorem not_mem_of_mem_pieces {s piece : String} (h : piece ∈ pieces s) : ',' ∉ piece.toList := by
  intro hmem
  obtain ⟨before, after, hpiece, hbefore⟩ := List.eq_append_cons_of_mem hmem
  have hwhole : pieces piece = String.ofList before :: pieces (String.ofList after) := by
    rw [← pieces_ofList_comma hbefore, ← hpiece, String.ofList_toList]
  rw [pieces_of_mem_pieces h, List.cons_eq_cons] at hwhole
  have hne : pieces (String.ofList after) ≠ [] := by
    rw [pieces, piecesOf, ne_eq, List.map_eq_nil_iff]
    exact List.splitOn_ne_nil _ _
  exact hne hwhole.2.symm

/-- What remains of a text after stripping was in it. -/
theorem mem_of_mem_strip {text : String} {c : Char} (h : c ∈ (strip text).toList) :
    c ∈ text.toList := by
  rw [← padding_append text.toList, ← toList_strip]
  exact List.mem_append_right _ (List.mem_append_left _ h)

/-! ## Items of a text -/

/-- The items of two texts with a comma between them are those of the one and of the other. -/
theorem items_append_comma (s t : String) : items (s ++ "," ++ t) = items s ++ items t := by
  rw [items, pieces_append_comma, stripped_eq_kept, kept_append]
  rfl

theorem isItem_of_mem_items {s item : String} (h : item ∈ items s) : IsItem item := by
  obtain ⟨hne, piece, hpiece, rfl⟩ := mem_kept.mp h
  exact
    { isStripped_strip piece with
      ne_empty := hne
      no_comma := fun hcomma ↦ not_mem_of_mem_pieces hpiece (mem_of_mem_strip hcomma) }

/-- Stripping leaves a list of items alone. -/
theorem stripped_of_isItem {parts : List String} (h : ∀ part ∈ parts, IsItem part) :
    stripped parts = parts := by
  have hstrip : parts.map strip = parts := by
    conv_rhs => rw [← List.map_id parts]
    exact List.map_congr_left fun part hpart ↦ strip_eq_self_iff.mpr (h part hpart).toIsStripped
  rw [stripped, hstrip, List.filter_eq_self]
  intro part hpart
  rw [decide_eq_true_eq]
  exact (h part hpart).ne_empty

/-- Parts without commas are the pieces of their joined text, up to blank ones. -/
theorem items_joinCommas {parts : List String} (h : ∀ part ∈ parts, ',' ∉ part.toList) :
    items (joinCommas parts) = stripped parts := by
  have hpiece : ∀ part ∈ parts, pieces part = [part] := by
    intro part hpart
    have hone := pieces_of_not_mem (h part hpart)
    rwa [String.ofList_toList] at hone
  have hjoin : items (joinCommas parts) = kept strip (parts.flatMap pieces) :=
    kept_pieces_joinCommas rfl parts
  rw [hjoin, flatMap_pieces_eq_self hpiece, stripped_eq_kept]

/-- Lists of items are read back from their joined text. -/
theorem items_joinCommas_of_isItem {parts : List String} (h : ∀ part ∈ parts, IsItem part) :
    items (joinCommas parts) = parts := by
  rw [items_joinCommas fun part hpart ↦ (h part hpart).no_comma, stripped_of_isItem h]

/-- The lists of items of texts are exactly the lists of texts that can be items. -/
theorem exists_items_eq_iff {parts : List String} :
    (∃ s, items s = parts) ↔ ∀ part ∈ parts, IsItem part := by
  constructor
  · rintro ⟨s, rfl⟩ part hpart
    exact isItem_of_mem_items hpart
  · intro h
    exact ⟨joinCommas parts, items_joinCommas_of_isItem h⟩

/-- A comma is no blank, so that it survives stripping. -/
theorem comma_mem_strip {text : String} (h : ',' ∈ text.toList) : ',' ∈ (strip text).toList := by
  rw [← padding_append text.toList, ← toList_strip, List.mem_append, List.mem_append] at h
  obtain hlead | hmem | htrail := h
  · exact absurd (isBlank_of_mem_padding (.inl hlead)) (by decide)
  · exact hmem
  · exact absurd (isBlank_of_mem_padding (.inr htrail)) (by decide)

/-- A joined text has the items that are given one by one exactly when no comma is in them. -/
theorem items_joinCommas_eq_iff {parts : List String} :
    items (joinCommas parts) = stripped parts ↔ ∀ part ∈ parts, ',' ∉ part.toList := by
  constructor
  · intro h part hpart hcomma
    have hne : strip part ≠ "" := by
      intro hempty
      have hmem := comma_mem_strip hcomma
      rw [hempty] at hmem
      cases hmem
    have hitem : strip part ∈ items (joinCommas parts) := by
      rw [h, stripped_eq_kept]
      exact mem_kept.mpr ⟨hne, part, hpart, rfl⟩
    exact (isItem_of_mem_items hitem).no_comma (comma_mem_strip hcomma)
  · exact items_joinCommas

end Text

/-! ## Lists as they are configured -/

namespace ItemList

/-- The laws of configured lists: a comma between two texts appends their items; the lists of items
of texts are those of non-empty stripped texts without commas; such a list is the same when it is
given as it is or as a joined text; and any list agrees with its joined text exactly when none of
its items has a comma. -/
theorem items_laws {α : Type} (display : α → String) :
    (∀ a b : String, (csv (a ++ "," ++ b)).items display =
      (csv a).items display ++ (csv b).items display) ∧
      (∀ parts : List String,
        (∃ a : String, (csv a).items display = parts) ↔ ∀ part ∈ parts, IsItem part) ∧
      (∀ a : String,
        (csv (joinCommas ((csv a).items display))).items display = (csv a).items display ∧
          (list ((csv a).items display)).items id = (csv a).items display) ∧
      ∀ parts : List α,
        (csv (joinCommas (parts.map display))).items display = (list parts).items display ↔
          ∀ part ∈ parts, ',' ∉ (display part).toList := by
  refine ⟨items_append_comma, fun parts ↦ exists_items_eq_iff, fun a ↦ ?_, fun parts ↦ ?_⟩
  · have hitems : ∀ item ∈ Text.items a, IsItem item := fun item hitem ↦ isItem_of_mem_items hitem
    constructor
    · exact items_joinCommas_of_isItem hitems
    · show stripped ((Text.items a).map id) = Text.items a
      rw [List.map_id, stripped_of_isItem hitems]
  · show Text.items (joinCommas (parts.map display)) = stripped (parts.map display) ↔ _
    rw [items_joinCommas_eq_iff, List.forall_mem_map]

/-- Blank pieces are left out, and the others are stripped. -/
example : (csv " 112,,\t*31#").items id = ["112", "*31#"] := by
  decide

end ItemList

end AssistedDialing
