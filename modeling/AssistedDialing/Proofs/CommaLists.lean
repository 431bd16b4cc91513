import AssistedDialing.Proofs.UpperCase
import AssistedDialing.Text.Separated

/-!
# Laws of comma-separated text

Cutting a text at its commas undoes joining, as far as the parts hold no commas themselves, and
blanks around a part do not change what is made of its pieces, if what is made of a piece does not
depend on the blanks around it. `kept f parts` is what `f` makes of parts, without empty results.
-/

namespace AssistedDialing.Text

/-! ## Blanks around a text -/

theorem trim_append_of_blank {cs lead trail : List Char} (hlead : ∀ c ∈ lead, isBlank c = true)
    (htrail : ∀ c ∈ trail, isBlank c = true) : trim (lead ++ (cs ++ trail)) = trim cs := by
  have htrimmed : trimStart (lead ++ (cs ++ trail)) = trimStart (cs ++ trail) :=
    List.dropWhile_append_of_pos hlead
  have hreversed : ∀ c ∈ trail.reverse, isBlank c = true :=
    fun c hc ↦ htrail c (List.mem_reverse.mp hc)
  rw [trim, trim, htrimmed, trimStart, trimStart, List.dropWhile_append]
  cases hempty : (cs.dropWhile isBlank).isEmpty with
  | true =>
      have hcs : cs.dropWhile isBlank = [] := List.isEmpty_iff.mp hempty
      have hnothing : trail.dropWhile isBlank = [] := List.dropWhile_eq_nil_iff.mpr htrail
      rw [if_pos rfl, hnothing, hcs]
  | false =>
      rw [if_neg Bool.false_ne_true, trimEnd, trimEnd, List.reverse_append,
        List.dropWhile_append_of_pos hreversed]

/-- A text that blanks surround is read like the text alone. -/
def IgnoresBlanks (f : String → String) : Prop :=
  ∀ lead cs trail : List Char, (∀ c ∈ lead, isBlank c = true) → (∀ c ∈ trail, isBlank c = true) →
    f (String.ofList (lead ++ (cs ++ trail))) = f (String.ofList cs)

theorem ignoresBlanks_strip : IgnoresBlanks strip := by
  intro lead cs trail hlead htrail
  rw [strip, strip, String.toList_ofList, String.toList_ofList, trim_append_of_blank hlead htrail]

/-- `padding cs` consists of blanks. -/
theorem isBlank_of_mem_padding {cs : List Char} {c : Char}
    (h : c ∈ (padding cs).1 ∨ c ∈ (padding cs).2) : isBlank c = true := by
  obtain h | h := h
  · exact List.mem_takeWhile_imp h
  · exact List.mem_takeWhile_imp (List.mem_reverse.mp h)

theorem IgnoresBlanks.strip_eq {f : String → String} (h : IgnoresBlanks f) (s : String) :
    f (strip s) = f s := by
  have hpadding := h (padding s.toList).1 (trim s.toList) (padding s.toList).2
    (fun c hc ↦ isBlank_of_mem_padding (.inl hc)) (fun c hc ↦ isBlank_of_mem_padding (.inr hc))
  rw [padding_append, String.ofList_toList] at hpadding
  exact hpadding.symm

/-! ## Pieces -/

@[simp] theorem pieces_empty : pieces "" = [""] := by
  rfl

theorem pieces_append_comma (s t : String) : pieces (s ++ "," ++ t) = pieces s ++ pieces t := by
  have hcut : piecesOf (s.toList ++ ',' :: t.toList) = piecesOf s.toList ++ piecesOf t.toList :=
    List.splitOn_append_cons_self _ _
  have hchars : (s ++ "," ++ t).toList = s.toList ++ ',' :: t.toList := by simp
  rw [pieces, hchars, hcut, List.map_append]
  rfl

/-- Joined parts are cut into the pieces of the parts. -/
theorem pieces_joinCommas {parts : List String} (h : parts ≠ []) :
    pieces (joinCommas parts) = parts.flatMap pieces := by
  induction parts with
  | nil => exact absurd rfl h
  | cons part parts ih =>
      cases parts with
      | nil => simp [joinCommas]
      | cons next parts =>
          have hjoin : joinCommas (part :: next :: parts) =
              part ++ "," ++ joinCommas (next :: parts) := String.intercalate_cons_cons
          rw [hjoin, pieces_append_comma, ih (List.cons_ne_nil _ _), ← List.flatMap_cons]

theorem pieces_of_not_mem {cs : List Char} (h : ',' ∉ cs) :
    pieces (String.ofList cs) = [String.ofList cs] := by
  rw [pieces, piecesOf, String.toList_ofList, List.splitOn_eq_singleton h, List.map_singleton]

theorem pieces_ofList_comma {piece rest : List Char} (h : ',' ∉ piece) :
    pieces (String.ofList (piece ++ ',' :: rest)) =
      String.ofList piece :: pieces (String.ofList rest) := by
  rw [pieces, piecesOf, String.toList_ofList, List.splitOn_append_cons_self_of_not_mem h,
    List.map_cons, pieces, piecesOf, String.toList_ofList]

/-- A text is one piece, or a piece, a comma and a text. -/
theorem comma_induction {P : List Char → Prop} (hlast : ∀ cs, ',' ∉ cs → P cs)
    (hcomma : ∀ piece rest, ',' ∉ piece → P rest → P (piece ++ ',' :: rest)) (cs : List Char) :
    P cs := by
  induction hlength : cs.length using Nat.strongRecOn generalizing cs with
  | ind length ih =>
      by_cases h : ',' ∈ cs
      · obtain ⟨piece, rest, rfl, hpiece⟩ := List.eq_append_cons_of_mem h
        have hshorter : rest.length < length := by
          rw [← hlength, List.length_append, List.length_cons]
          omega
        exact hcomma piece rest hpiece (ih _ hshorter rest rfl)
      · exact hlast cs h

/-- A piece is not cut any further. -/
theorem pieces_of_mem_pieces {s piece : String} (h : piece ∈ pieces s) :
    pieces piece = [piece] := by
  have hall : ∀ cs : List Char, ∀ piece ∈ pieces (String.ofList cs), pieces piece = [piece] := by
    apply comma_induction
    · intro cs hcs piece hpiece
      rw [pieces_of_not_mem hcs, List.mem_singleton] at hpiece
      rw [hpiece, pieces_of_not_mem hcs]
    · intro first rest hfirst ih piece hpiece
      rw [pieces_ofList_comma hfirst, List.mem_cons] at hpiece
      obtain rfl | hpiece := hpiece
      · exact pieces_of_not_mem hfirst
      · exact ih piece hpiece
  refine hall s.toList piece ?_
  rwa [String.ofList_toList]

/-- Cutting parts that are single pieces changes nothing. -/
theorem flatMap_pieces_eq_self {parts : List String} (h : ∀ part ∈ parts, pieces part = [part]) :
    parts.flatMap pieces = parts := by
  have hpieces : parts.map pieces = parts.map fun part ↦ [part] := List.map_congr_left h
  rw [List.flatMap_def, hpieces, ← List.flatMap_def]
  exact List.flatMap_singleton' _

/-- Cutting the pieces of a text changes nothing. -/
theorem flatMap_pieces (s : String) : (pieces s).flatMap pieces = pieces s :=
  flatMap_pieces_eq_self fun _ hpiece ↦ pieces_of_mem_pieces hpiece

/-! ## What is made of the pieces -/

/-- `kept f parts` is what `f` makes of each part, without the empty results. -/
def kept (f : String → String) (parts : List String) : List String :=
  (parts.map f).filter fun part ↦ part ≠ ""

variable {f g : String → String}

theorem kept_append (parts others : List String) :
    kept f (parts ++ others) = kept f parts ++ kept f others := by
  rw [kept, List.map_append, List.filter_append]
  rfl

theorem kept_flatMap (parts : List String) (cut : String → List String) :
    kept f (parts.flatMap cut) = parts.flatMap fun part ↦ kept f (cut part) := by
  induction parts with
  | nil => rfl
  | cons part parts ih => rw [List.flatMap_cons, kept_append, ih, List.flatMap_cons]

theorem kept_cons_empty (h : f "" = "") (parts : List String) :
    kept f ("" :: parts) = kept f parts := by
  rw [kept, List.map_cons, h]
  rfl

/-- Stripping parts before they are read makes no difference. -/
theorem flatMap_stripped {α : Type} (read : String → List α) (hread : ∀ s, read (strip s) = read s)
    (hempty : read "" = []) (parts : List String) :
    (stripped parts).flatMap read = parts.flatMap read := by
  induction parts with
  | nil => rfl
  | cons part parts ih =>
      by_cases hblank : strip part = ""
      · have hnothing : read part = [] := by rw [← hread, hblank, hempty]
        have hskip : stripped (part :: parts) = stripped parts := by simp [stripped, hblank]
        rw [hskip, ih, List.flatMap_cons, hnothing, List.nil_append]
      · have hkeep : stripped (part :: parts) = strip part :: stripped parts := by
          simp [stripped, hblank]
        rw [hkeep, List.flatMap_cons, hread, ih, List.flatMap_cons]

theorem kept_stripped (hf : IgnoresBlanks f) (hempty : f "" = "") (parts : List String) :
    kept f (stripped parts) = kept f parts := by
  have hread (s : String) : kept f [strip s] = kept f [s] := by
    simp only [kept, List.map_singleton, hf.strip_eq]
  rw [← List.flatMap_singleton' (stripped parts), kept_flatMap,
    flatMap_stripped (fun s ↦ kept f [s]) hread (kept_cons_empty hempty []), ← kept_flatMap,
    List.flatMap_singleton']

/-- What is made of joined parts is what is made of their pieces. -/
theorem kept_pieces_joinCommas (hempty : f "" = "") (parts : List String) :
    kept f (pieces (joinCommas parts)) = kept f (parts.flatMap pieces) := by
  cases parts with
  | nil => exact kept_cons_empty hempty []
  | cons part parts => rw [pieces_joinCommas (List.cons_ne_nil _ _)]

/-- Blanks around a text do not change what is made of its pieces. -/
theorem ignoresBlanks_kept (hf : IgnoresBlanks f) {lead trail : List Char}
    (hlead : ∀ c ∈ lead, isBlank c = true) (htrail : ∀ c ∈ trail, isBlank c = true)
    (cs : List Char) :
    kept f (pieces (String.ofList (lead ++ (cs ++ trail)))) =
      kept f (pieces (String.ofList cs)) := by
  have hcomma {blanks : List Char} (h : ∀ c ∈ blanks, isBlank c = true) : ',' ∉ blanks := by
    intro hmem
    exact absurd (h _ hmem) (by decide)
  -- the blanks at the beginning belong to the first piece, and those at the end to the last one
  induction cs using comma_induction generalizing lead with
  | hlast cs hcs =>
      have hwhole : ',' ∉ lead ++ (cs ++ trail) := by
        simp [hcomma hlead, hcs, hcomma htrail]
      rw [pieces_of_not_mem hwhole, pieces_of_not_mem hcs, kept, kept, List.map_singleton,
        List.map_singleton, hf lead cs trail hlead htrail]
  | hcomma piece rest hpiece ih =>
      have hfirst : ',' ∉ lead ++ piece := by simp [hcomma hlead, hpiece]
      have hshape : lead ++ (piece ++ ',' :: rest ++ trail) =
          lead ++ piece ++ ',' :: ([] ++ (rest ++ trail)) := by simp
      have hhead : f (String.ofList (lead ++ piece)) = f (String.ofList piece) := by
        have hshort := hf lead piece [] hlead (by simp)
        rwa [List.append_nil] at hshort
      rw [hshape, pieces_ofList_comma hfirst, pieces_ofList_comma hpiece, ← List.singleton_append,
        kept_append, ih (by simp), ← kept_append]
      simp only [kept, List.singleton_append, List.map_cons, hhead]

theorem kept_pieces_strip (hf : IgnoresBlanks f) (s : String) :
    kept f (pieces (strip s)) = kept f (pieces s) := by
  have hpadding := ignoresBlanks_kept hf
    (fun c (hc : c ∈ (padding s.toList).1) ↦ isBlank_of_mem_padding (.inl hc))
    (fun c (hc : c ∈ (padding s.toList).2) ↦ isBlank_of_mem_padding (.inr hc)) (trim s.toList)
  rw [padding_append, String.ofList_toList] at hpadding
  exact hpadding.symm

/-- What is made of stripped and joined parts is what is made of their pieces. -/
theorem kept_pieces_joinCommas_stripped (hf : IgnoresBlanks f) (hempty : f "" = "")
    (parts : List String) :
    kept f (pieces (joinCommas (stripped parts))) = kept f (parts.flatMap pieces) := by
  have hread (s : String) : kept f (pieces (strip s)) = kept f (pieces s) := kept_pieces_strip hf s
  have hnothing : kept f (pieces "") = [] := by
    rw [pieces_empty]
    exact kept_cons_empty hempty []
  rw [kept_pieces_joinCommas hempty, kept_flatMap, kept_flatMap,
    flatMap_stripped (fun s ↦ kept f (pieces s)) hread hnothing]

end AssistedDialing.Text
