import AssistedDialing.EnvironmentFile.Variables

/-!
# References between variables

A value of an environment file may refer to other variables, of the file or of the environment. So a
variable can change the values of others, but only of those that refer to it: a text expands in the
same way as long as the variables are the same to which it refers (`expandedFrom_congr`). A variable
to which no other value refers changes nothing but itself (`lookup_agreeOff`).
-/

namespace AssistedDialing.EnvironmentFile

variable {first second : String → Option String} {cs rest : List Char} {name : String}

/-! ## Expanding references -/

/-- `RefersTo cs name` says that a reference to the variable `name` stands somewhere in `cs`. -/
def RefersTo (cs : List Char) (name : String) : Prop :=
  ∃ behind reference, '$' :: '\x7b' :: behind <:+ cs ∧ reference? behind = some reference ∧
    reference.name = name

theorem RefersTo.of_suffix (h : RefersTo rest name) (hsuffix : rest <:+ cs) : RefersTo cs name := by
  obtain ⟨behind, reference, hbehind, hreference⟩ := h
  exact ⟨behind, reference, hbehind.trans hsuffix, hreference⟩

/-- What is left behind a reference is the end of the text. -/
theorem reference?_rest_suffix {reference : Reference} (h : reference? cs = some reference) :
    reference.rest <:+ cs := by
  rw [reference?] at h
  split at h
  · next rest hdrop =>
    cases h
    exact (List.suffix_cons _ _).trans (hdrop ▸ List.drop_suffix _ _)
  · next more hdrop =>
    have hmore : more <:+ cs :=
      ((List.suffix_cons _ _).trans (List.suffix_cons _ _)).trans (hdrop ▸ List.drop_suffix _ _)
    dsimp only at h
    split at h
    · next rest hbehind =>
      cases h
      exact ((List.suffix_cons _ _).trans (hbehind ▸ List.drop_suffix _ _)).trans hmore
    · cases h
  · cases h

/-- What a text expands to depends only on the variables that it refers to. -/
theorem expandedFrom_congr {fuel : Nat} (h : ∀ name, RefersTo cs name → first name = second name) :
    expandedFrom first fuel cs = expandedFrom second fuel cs := by
  induction fuel generalizing cs with
  | zero => rfl
  | succ fuel ih =>
      match cs with
      | [] => rfl
      | c :: cs =>
          have hrest : expandedFrom first fuel cs = expandedFrom second fuel cs :=
            ih fun name hname ↦ h name (hname.of_suffix (List.suffix_cons _ _))
          simp only [expandedFrom.eq_def _ (fuel + 1), hrest]
          split
          · next reference hreference =>
            split at hreference
            · next behind =>
              have hname : RefersTo ('$' :: '\x7b' :: behind) reference.name :=
                ⟨behind, reference, List.suffix_refl _, hreference, rfl⟩
              have hsuffix : reference.rest <:+ '$' :: '\x7b' :: behind :=
                (reference?_rest_suffix hreference).trans
                  ((List.suffix_cons _ _).trans (List.suffix_cons _ _))
              rw [h reference.name hname, ih fun name hname ↦ h name (hname.of_suffix hsuffix)]
            · cases hreference
          · rfl

/-! ## Variables that nothing refers to -/

/-- `AgreeOff target first second` says that two environments have the same values for all variables
but `target`. -/
def AgreeOff (target : String) (first second : String → Option String) : Prop :=
  ∀ name ≠ target, first name = second name

/-- `statement.name?` is the variable that a statement binds. -/
def Statement.name? : Statement → Option String
  | binding name _ => some name
  | _ => none

/-- `others target statements` is the statements that do not bind `target`. -/
def others (target : String) (statements : List Statement) : List Statement :=
  statements.filter fun statement ↦ statement.name? ≠ some target

/-- `Unreferenced target statements` says that no value of another variable refers to `target`. -/
def Unreferenced (target : String) (statements : List Statement) : Prop :=
  ∀ name value, .binding name (some value) ∈ others target statements →
    ¬ RefersTo value.toList target

/-- A statement about another variable gives both the same value, unless it refers to `target`. -/
theorem assign_binding_congr {target : String} {value : Option String} {known other : Variables}
    (name : String) (henvironment : AgreeOff target first second)
    (hknown : ∀ name ≠ target, known.lookup name = other.lookup name)
    (hvalue : ∀ text ∈ value, ¬ RefersTo text.toList target) :
    ∃ given, assign first known (.binding name value) = (name, given) :: known ∧
      assign second other (.binding name value) = (name, given) :: other := by
  refine ⟨_, rfl, ?_⟩
  rw [assign]
  congr 2
  refine Option.map_congr fun text htext ↦ ?_
  refine congrArg String.ofList (expandedFrom_congr fun name hname ↦ ?_)
  have hne : name ≠ target := fun heq ↦ hvalue text htext (heq ▸ hname)
  rw [hknown name hne, henvironment name hne]

/-- Without the statements that bind `target`, the others give the same values. -/
theorem lookup_foldl_others {target : String} {statements : List Statement}
    {known other : Variables} (henvironment : AgreeOff target first second)
    (hknown : ∀ name ≠ target, known.lookup name = other.lookup name)
    (hunreferenced : Unreferenced target statements) :
    ∀ name ≠ target,
      (statements.foldl (assign first) known).lookup name =
        ((others target statements).foldl (assign second) other).lookup name := by
  induction statements generalizing known other with
  | nil => exact hknown
  | cons statement statements ih =>
      have hrest : Unreferenced target statements := fun name value hmem ↦
        hunreferenced name value (((List.sublist_cons_self _ _).filter _).subset hmem)
      by_cases hbinds : statement.name? = some target
      · -- the statement is dropped on one side, and sets only `target` on the other
        rw [others, List.filter_cons_of_neg (by simpa using hbinds), ← others, List.foldl_cons]
        refine ih (fun name hname ↦ ?_) hrest
        cases statement with
        | binding own value =>
            cases hbinds
            rw [assign, List.lookup_cons, beq_false_of_ne hname]
            exact hknown name hname
        | blank | unreadable => cases hbinds
      · -- the statement is carried out on both sides, with the same value
        have hothers : others target (statement :: statements) =
            statement :: others target statements := List.filter_cons_of_pos (by simpa using hbinds)
        rw [hothers, List.foldl_cons, List.foldl_cons]
        refine ih ?_ hrest
        cases statement with
        | blank | unreadable => exact hknown
        | binding own value =>
            have hvalue : ∀ text ∈ value, ¬ RefersTo text.toList target := by
              rintro text rfl
              exact hunreferenced own text (hothers ▸ List.mem_cons_self)
            obtain ⟨given, hfirst, hsecond⟩ :=
              assign_binding_congr own henvironment hknown hvalue
            intro name hname
            rw [hfirst, hsecond, List.lookup_cons, List.lookup_cons, hknown name hname]

/-- Two readings of an environment file that differ in a variable to which no other value refers
give all other variables the same values. -/
theorem lookup_agreeOff {target text text' : String} (henvironment : AgreeOff target first second)
    (hothers : others target (statements text) = others target (statements text'))
    (hunreferenced : Unreferenced target (statements text)) :
    AgreeOff target (lookup first text) (lookup second text') := by
  intro name hname
  have hsame : AgreeOff target second second := fun _ _ ↦ rfl
  have hunreferenced' : Unreferenced target (statements text') := by
    rw [Unreferenced, ← hothers]
    exact hunreferenced
  rw [lookup, lookup, lookup_foldl_others henvironment (fun _ _ ↦ rfl) hunreferenced name hname,
    lookup_foldl_others hsame (fun _ _ ↦ rfl) hunreferenced' name hname, hothers]

end AssistedDialing.EnvironmentFile
