import PageScript.Proofs.Json.Canonical

/-!
# Entries in another order

The entries of an object may be written in any order, also inside other values. A value that is
written with its keys sorted is one such arrangement of the value, and all arrangements of a
canonical value have it as their canonical form.

* `Json.Arranged` — the relation;
* `Json.arranged_refl` — a value as it is;
* `Json.arranged_canonical_arr`, `Json.arranged_canonical_obj` — a value in canonical order;
* `Json.Arranged.canonical_eq` — arrangements of a canonical value.
-/

namespace PageScript.Json

mutual

/-- The second value is the first one with the entries of its objects in some order. -/
inductive Arranged : Json → Json → Prop
  | null : Arranged .null .null
  | bool (b : Bool) : Arranged (.bool b) (.bool b)
  | int (n : Int) : Arranged (.int n) (.int n)
  | float (x : Binary64) : Arranged (.float x) (.float x)
  | str (s : String) : Arranged (.str s) (.str s)
  | arr {items items' : List Json} (h : ArrangedItems items items') :
      Arranged (.arr items) (.arr items')
  | obj {fields between fields' : List (String × Json)} (h : ArrangedValues fields between)
      (hperm : between.Perm fields') : Arranged (.obj fields) (.obj fields')

/-- Each item of the second list is an arrangement of the item of the first one at its place. -/
inductive ArrangedItems : List Json → List Json → Prop
  | nil : ArrangedItems [] []
  | cons {item item' : Json} {items items' : List Json} (h : Arranged item item')
      (hrest : ArrangedItems items items') : ArrangedItems (item :: items) (item' :: items')

/-- Each field of the second list has the key of the field of the first one at its place, and an
arrangement of its value. -/
inductive ArrangedValues : List (String × Json) → List (String × Json) → Prop
  | nil : ArrangedValues [] []
  | cons {key : String} {value value' : Json} {fields fields' : List (String × Json)}
      (h : Arranged value value') (hrest : ArrangedValues fields fields') :
      ArrangedValues ((key, value) :: fields) ((key, value') :: fields')

end

variable {key : String} {value j j' : Json} {items items' : List Json}
  {fields fields' : List (String × Json)}

/-! ### Parts of an arrangement -/

/-- What is arranged as an array is an array. -/
theorem Arranged.exists_eq_arr (h : Arranged (.arr items) j) :
    ∃ items', j = .arr items' ∧ ArrangedItems items items' := by
  cases h with
  | arr h => exact ⟨_, rfl, h⟩

/-- What is arranged as an object is an object. -/
theorem Arranged.exists_eq_obj (h : Arranged (.obj fields) j) :
    ∃ fields', j = .obj fields' ∧ Arranged (.obj fields) (.obj fields') := by
  cases h with
  | obj h hperm => exact ⟨_, rfl, .obj h hperm⟩

/-- Arranged values keep their keys. -/
theorem ArrangedValues.map_fst_eq (h : ArrangedValues fields fields') :
    fields'.map Prod.fst = fields.map Prod.fst := by
  induction fields generalizing fields' with
  | nil =>
    cases h
    rfl
  | cons field rest ih =>
    cases h with
    | cons _ hrest => rw [List.map_cons, List.map_cons, ih hrest]

/-- A field has its arranged value under the same key. -/
theorem ArrangedValues.exists_mem (h : ArrangedValues fields fields')
    (hmem : (key, value) ∈ fields) : ∃ value', Arranged value value' ∧ (key, value') ∈ fields' := by
  induction fields generalizing fields' with
  | nil => exact absurd hmem List.not_mem_nil
  | cons field rest ih =>
    cases h with
    | cons hfield hrest =>
      rcases List.mem_cons.mp hmem with heq | hmem
      · obtain ⟨rfl, rfl⟩ := Prod.mk.inj heq
        exact ⟨_, hfield, List.mem_cons_self⟩
      · obtain ⟨value', harranged, hmem⟩ := ih hrest hmem
        exact ⟨value', harranged, List.mem_cons_of_mem _ hmem⟩

/-- The fields of an arranged object have the same keys, in some order. -/
theorem Arranged.map_fst_perm (h : Arranged (.obj fields) (.obj fields')) :
    (fields'.map Prod.fst).Perm (fields.map Prod.fst) := by
  cases h with
  | obj h hperm =>
    rw [← h.map_fst_eq]
    exact (hperm.map Prod.fst).symm

/-- Every field of an object is in each arrangement of it. -/
theorem Arranged.exists_mem (h : Arranged (.obj fields) (.obj fields'))
    (hmem : (key, value) ∈ fields) : ∃ value', Arranged value value' ∧ (key, value') ∈ fields' := by
  cases h with
  | obj h hperm =>
    obtain ⟨value', harranged, hmem⟩ := h.exists_mem hmem
    exact ⟨value', harranged, hperm.mem_iff.mp hmem⟩

/-- Dropping fields by their keys is possible before or after they have been arranged. -/
theorem Arranged.filter (h : Arranged (.obj fields) (.obj fields')) (p : String → Bool) :
    Arranged (.obj (fields.filter fun field => p field.1))
      (.obj (fields'.filter fun field => p field.1)) := by
  cases h with
  | obj h hperm =>
    refine .obj ?_ (hperm.filter _)
    -- The order of the fields plays no part any more: they are taken in the order of the first
    -- object.
    clear hperm
    rename_i between
    induction fields generalizing between with
    | nil =>
      cases h
      exact .nil
    | cons field rest ih =>
      cases h with
      | cons hfield hrest =>
        rw [List.filter_cons, List.filter_cons]
        split_ifs
        · exact .cons hfield (ih hrest)
        · exact ih hrest

/-! ### A value as it is -/

/-- Every value is arranged as itself. -/
theorem arranged_refl (j : Json) : Arranged j j := by
  induction j with
  | arr items ih =>
    refine .arr ?_
    induction items with
    | nil => exact .nil
    | cons item rest ihrest =>
      obtain ⟨hitem, hrest⟩ := List.forall_mem_cons.mp ih
      exact .cons hitem (ihrest hrest)
  | obj fields ih =>
    -- The fields need no other order.
    refine .obj ?_ (.refl _)
    induction fields with
    | nil => exact .nil
    | cons field rest ihrest =>
      obtain ⟨hfield, hrest⟩ := List.forall_mem_cons.mp ih
      exact .cons hfield (ihrest hrest)
  | null => exact .null
  | bool b => exact .bool b
  | int n => exact .int n
  | float x => exact .float x
  | str s => exact .str s

/-! ### Canonical order -/

/-- An array in canonical order is an arrangement of it if that is so for its items. -/
theorem arranged_canonical_arr (h : ∀ item ∈ items, Arranged item item.canonical) :
    Arranged (.arr items) (Json.arr items).canonical := by
  rw [canonical, canonicalItems_eq]
  refine .arr ?_
  induction items with
  | nil => exact .nil
  | cons item rest ih =>
    obtain ⟨hitem, hrest⟩ := List.forall_mem_cons.mp h
    exact .cons hitem (ih hrest)

/-- An object of distinct keys in canonical order is an arrangement of it if that is so for the
values of its fields. -/
theorem arranged_canonical_obj (hnodup : (fields.map Prod.fst).Nodup)
    (h : ∀ field ∈ fields, Arranged field.2 field.2.canonical) :
    Arranged (.obj fields) (Json.obj fields).canonical := by
  have hvalues : ArrangedValues fields (canonicalFields fields) := by
    rw [canonicalFields_eq]
    clear hnodup
    induction fields with
    | nil => exact .nil
    | cons field rest ih =>
      obtain ⟨hfield, hrest⟩ := List.forall_mem_cons.mp h
      exact .cons hfield (ih hrest)
  rw [← map_fst_canonicalFields] at hnodup
  rw [canonical]
  exact .obj hvalues (sortFields_perm hnodup).symm

/-- The canonical form is one of the arrangements of a canonical value. -/
@[simp]
theorem IsCanonical.arranged_canonical (h : IsCanonical j) : Arranged j j.canonical := by
  rw [h]
  exact arranged_refl j

/-- The last field of an object may be one that is left out when it is absent. -/
theorem arranged_canonical_append_fieldIfPresent {s : Option String}
    (hnodup : (key :: fields.map Prod.fst).Nodup)
    (h : ∀ field ∈ fields, Arranged field.2 field.2.canonical) :
    Arranged (.obj (fields ++ fieldIfPresent key s))
      (Json.obj (fields ++ fieldIfPresent key s)).canonical := by
  cases s with
  | none =>
    rw [fieldIfPresent, List.append_nil]
    exact arranged_canonical_obj hnodup.of_cons h
  | some s =>
    refine arranged_canonical_obj ?_ ?_
    · rw [fieldIfPresent, List.map_append]
      exact (List.perm_append_singleton key _).nodup_iff.mpr hnodup
    · rw [fieldIfPresent, List.forall_mem_append, List.forall_mem_singleton]
      exact ⟨h, .str s⟩

/-- Arranged items have the canonical items, if each of them has. -/
theorem ArrangedItems.canonicalItems_eq (h : ArrangedItems items items')
    (hitems : ∀ item ∈ items, ∀ j, Arranged item j → j.canonical = item) :
    canonicalItems items' = items := by
  induction items generalizing items' with
  | nil =>
    cases h
    rfl
  | cons item rest ih =>
    obtain ⟨hitem, hitems⟩ := List.forall_mem_cons.mp hitems
    cases h with
    | cons h hrest => rw [canonicalItems, hitem _ h, ih hrest hitems]

/-- Arranged values have the canonical values, if each of them has. -/
theorem ArrangedValues.canonicalFields_eq (h : ArrangedValues fields fields')
    (hfields : ∀ field ∈ fields, ∀ j, Arranged field.2 j → j.canonical = field.2) :
    canonicalFields fields' = fields := by
  induction fields generalizing fields' with
  | nil =>
    cases h
    rfl
  | cons field rest ih =>
    obtain ⟨hfield, hothers⟩ := List.forall_mem_cons.mp hfields
    cases h with
    | cons h hrest => rw [canonicalFields, hfield _ h, ih hrest hothers]

/-- The canonical form of every arrangement of a canonical value is the value. -/
theorem Arranged.canonical_eq (h : Arranged j j') (hj : IsCanonical j) : j'.canonical = j := by
  induction j generalizing j' with
  | arr items ih =>
    rw [isCanonical_arr_iff] at hj
    cases h with
    | arr h =>
      rw [canonical, h.canonicalItems_eq fun item hitem j h => ih item hitem h (hj item hitem)]
  | obj fields ih =>
    obtain ⟨hsorted, hj⟩ := isCanonical_obj_iff.mp hj
    cases h with
    | @obj _ between fields' hvalues hperm =>
      -- The values are in canonical form one by one, and sorting undoes the rest.
      have hbetween : canonicalFields between = fields :=
        hvalues.canonicalFields_eq fun field hfield j h => ih field hfield h (hj field hfield)
      have hfields : (canonicalFields fields').Perm fields := by
        rw [← hbetween, canonicalFields_eq, canonicalFields_eq]
        exact (hperm.map _).symm
      rw [canonical, sortFields_eq_of_perm hsorted hfields]
  | _ =>
    cases h
    rfl

end PageScript.Json
