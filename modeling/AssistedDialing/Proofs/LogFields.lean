import AssistedDialing.Log.Line
import Mathlib.Data.List.Nodup

/-!
# Fields by their names

The fields of a JSON log line are set one after the other: a name that is there already keeps its
place and takes the new value. Names stay distinct, and the value that is set last counts
(`lookup_setAll`). When the new names are distinct too, the result can be written down at once
(`setAll_eq_merged`).
-/

namespace AssistedDialing.Log

variable {fields extras : List (String × Value)} {name : String} {value : Value}

/-! ## Setting a field -/

theorem lookup_put (other : String) :
    (put name value fields).lookup other =
      if other = name then some value else fields.lookup other := by
  induction fields with
  | nil => grind [put]
  | cons field fields ih =>
      rw [put]
      split <;> grind

theorem put_of_not_mem (h : name ∉ fields.map Prod.fst) :
    put name value fields = fields ++ [(name, value)] := by
  induction fields with
  | nil => rfl
  | cons field fields ih =>
      rw [List.map_cons, List.mem_cons, not_or] at h
      rw [put, if_neg (Ne.symm h.1), ih h.2, List.cons_append]

theorem map_fst_put_of_mem (h : name ∈ fields.map Prod.fst) :
    (put name value fields).map Prod.fst = fields.map Prod.fst := by
  induction fields with
  | nil => cases h
  | cons field fields ih =>
      rw [put]
      split
      · next hfield => rw [List.map_cons, List.map_cons, hfield]
      · next hfield =>
        rw [List.map_cons, List.mem_cons] at h
        rw [List.map_cons, List.map_cons, ih (h.resolve_left (Ne.symm hfield))]

/-- Names stay distinct. -/
theorem nodup_put (h : (fields.map Prod.fst).Nodup) :
    ((put name value fields).map Prod.fst).Nodup := by
  by_cases hname : name ∈ fields.map Prod.fst
  · rw [map_fst_put_of_mem hname]
    exact h
  · rw [put_of_not_mem hname, List.map_append]
    exact h.append (List.nodup_singleton name) (List.disjoint_singleton.mpr hname)

/-- Among distinct names the value is replaced where the name stands. -/
theorem put_of_mem (hnodup : (fields.map Prod.fst).Nodup) (h : name ∈ fields.map Prod.fst) :
    put name value fields =
      fields.map fun field ↦ (field.1, if field.1 = name then value else field.2) := by
  induction fields with
  | nil => cases h
  | cons field fields ih =>
      rw [List.map_cons, List.nodup_cons] at hnodup
      rw [List.map_cons, List.mem_cons] at h
      rw [put, List.map_cons]
      split
      · next hfield =>
        have hrest : ∀ other ∈ fields, other.1 ≠ name := by
          rintro other hother rfl
          exact hnodup.1 (hfield ▸ List.mem_map_of_mem hother)
        rw [List.map_congr_left fun other hother ↦ by rw [if_neg (hrest other hother)]]
        simp [hfield]
      · next hfield => rw [ih hnodup.2 (h.resolve_left (Ne.symm hfield))]

/-! ## Setting several fields -/

/-- `setAll fields extras` sets one field after the other. -/
def setAll (fields extras : List (String × Value)) : List (String × Value) :=
  extras.foldl (fun fields extra ↦ put extra.1 extra.2 fields) fields

/-- The value that is set last counts. -/
theorem lookup_setAll (name : String) :
    (setAll fields extras).lookup name = (extras.reverse.lookup name).or (fields.lookup name) := by
  induction extras generalizing fields with
  | nil => rfl
  | cons extra extras ih =>
      rw [setAll, List.foldl_cons, ← setAll, ih, lookup_put, List.reverse_cons, List.lookup_append,
        Option.or_assoc]
      congr 1
      grind

theorem nodup_setAll (h : (fields.map Prod.fst).Nodup) :
    ((setAll fields extras).map Prod.fst).Nodup := by
  induction extras generalizing fields with
  | nil => exact h
  | cons extra extras ih => exact ih (nodup_put h)

/-- `merged fields extras` has a value of `extras` in the place of the field of its name, and behind
the fields what is left of `extras`. -/
def merged (fields extras : List (String × Value)) : List (String × Value) :=
  (fields.map fun field ↦ (field.1, (extras.lookup field.1).getD field.2)) ++
    extras.filter fun extra ↦ extra.1 ∉ fields.map Prod.fst

theorem merged_nil : merged fields [] = fields := by
  simp [merged]

/-- The first of the fields that are set takes its place. -/
theorem merged_put {extra : String × Value} (hfields : (fields.map Prod.fst).Nodup)
    (hextra : extra.1 ∉ extras.map Prod.fst) :
    merged (put extra.1 extra.2 fields) extras = merged fields (extra :: extras) := by
  have hlookup (name : String) :
      (extra :: extras).lookup name =
        if name = extra.1 then some extra.2 else extras.lookup name := by
    grind
  have hunset : extras.lookup extra.1 = none := by
    rw [List.lookup_eq_none_iff]
    intro other hother
    rw [bne_iff_ne]
    rintro heq
    exact hextra (heq ▸ List.mem_map_of_mem hother)
  by_cases hmem : extra.1 ∈ fields.map Prod.fst
  · rw [merged, merged, map_fst_put_of_mem hmem, put_of_mem hfields hmem, List.map_map,
      List.filter_cons_of_neg (by simpa using hmem)]
    congr 1
    refine List.map_congr_left fun field _ ↦ ?_
    by_cases hname : field.1 = extra.1 <;> simp [hlookup, hname, hunset]
  · rw [merged, merged, put_of_not_mem hmem, List.filter_cons_of_pos (by simpa using hmem)]
    have hplaces : ∀ field ∈ fields, field.1 ≠ extra.1 :=
      fun field hfield heq ↦ hmem (heq ▸ List.mem_map_of_mem hfield)
    have hrest : ∀ other ∈ extras, other.1 ≠ extra.1 :=
      fun other hother heq ↦ hextra (heq ▸ List.mem_map_of_mem hother)
    have hrewrite : ∀ field ∈ fields,
        (field.1, ((extra :: extras).lookup field.1).getD field.2) =
          (field.1, (extras.lookup field.1).getD field.2) :=
      fun field hfield ↦ by rw [hlookup, if_neg (hplaces field hfield)]
    have hfilter : ∀ other ∈ extras,
        decide (other.1 ∉ (fields ++ [extra]).map Prod.fst) =
          decide (other.1 ∉ fields.map Prod.fst) :=
      fun other hother ↦ by simp [hrest other hother]
    rw [List.map_congr_left hrewrite, List.map_append, List.filter_congr hfilter]
    simp [hunset]

theorem setAll_eq_merged (hfields : (fields.map Prod.fst).Nodup)
    (hextras : (extras.map Prod.fst).Nodup) : setAll fields extras = merged fields extras := by
  induction extras generalizing fields with
  | nil => exact merged_nil.symm
  | cons extra extras ih =>
      rw [List.map_cons, List.nodup_cons] at hextras
      rw [← merged_put hfields hextras.1, ← ih (nodup_put hfields) hextras.2]
      rfl

end AssistedDialing.Log
