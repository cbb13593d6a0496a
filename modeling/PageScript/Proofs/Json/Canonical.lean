import Mathlib.Data.List.Nodup
import Mathlib.Tactic.SplitIfs
import PageScript.Json.Basic

/-!
# Canonical values

The fields of an object may stand in any order, and `Json.canonical` picks one of them. A value is
canonical if it is in that order already: the keys of its objects ascend, and all its parts are
canonical.

* `Json.induct` — induction over a value and its parts;
* `Json.sortFields_perm`, `Json.sortFields_eq_of_perm` — sorting fields of distinct keys only moves
  them, and their order does not matter to it;
* `Json.isCanonical_obj_iff`, `Json.isCanonical_canonical` — what is canonical.
-/

namespace PageScript.Json

variable {key : String} {value j : Json} {items : List Json} {fields fields' : List (String × Json)}

/-! ### Induction -/

/-- What holds of a list whenever it holds of its items, of an object whenever it holds of the
values of its fields, and of everything else, holds of every value. -/
@[elab_as_elim, induction_eliminator]
theorem induct {P : Json → Prop} (null : P .null) (bool : ∀ b, P (.bool b)) (int : ∀ n, P (.int n))
    (float : ∀ x, P (.float x)) (str : ∀ s, P (.str s))
    (arr : ∀ items, (∀ item ∈ items, P item) → P (.arr items))
    (obj : ∀ fields, (∀ field ∈ fields, P field.2) → P (.obj fields)) (j : Json) : P j := by
  match j with
  | .null => exact null
  | .bool b => exact bool b
  | .int n => exact int n
  | .float x => exact float x
  | .str s => exact str s
  | .arr items =>
    exact arr items fun item hitem => induct null bool int float str arr obj item
  | .obj fields =>
    exact obj fields fun field hfield => induct null bool int float str arr obj field.2
termination_by sizeOf j
decreasing_by
  · have := List.sizeOf_lt_of_mem hitem
    simp only [Json.arr.sizeOf_spec]
    omega
  · have := List.sizeOf_lt_of_mem hfield
    obtain ⟨key, value⟩ := field
    simp only [Json.obj.sizeOf_spec, Prod.mk.sizeOf_spec] at *
    omega

/-! ### Sorted fields -/

/-- The keys of the fields ascend, each standing once. -/
def Sorted (fields : List (String × Json)) : Prop :=
  fields.Pairwise fun field field' => field.1 < field'.1

/-- Sorted fields have each key once. -/
theorem Sorted.nodup (h : Sorted fields) : (fields.map Prod.fst).Nodup :=
  List.pairwise_map.mpr (h.imp String.ne_of_lt)

/-- Whether fields are sorted is a matter of their keys. -/
theorem Sorted.of_map_fst (h : Sorted fields) (heq : fields'.map Prod.fst = fields.map Prod.fst) :
    Sorted fields' := by
  have hkeys : (fields.map Prod.fst).Pairwise (· < ·) := List.pairwise_map.mpr h
  rw [← heq] at hkeys
  exact List.pairwise_map.mp hkeys

/-- A field of the insertion is the new one or an old one. -/
theorem eq_or_mem_of_mem_insertField {field : String × Json}
    (h : field ∈ insertField key value fields) : field = (key, value) ∨ field ∈ fields := by
  induction fields with
  | nil => exact .inl (List.mem_singleton.mp h)
  | cons first rest ih =>
    rw [insertField] at h
    split_ifs at h with hlt heq
    · exact List.mem_cons.mp h
    · rcases List.mem_cons.mp h with h | h
      · exact .inl h
      · exact .inr (List.mem_cons_of_mem _ h)
    · rcases List.mem_cons.mp h with h | h
      · exact .inr (h ▸ List.mem_cons_self)
      · exact (ih h).imp_right (List.mem_cons_of_mem _)

/-- Sorted fields stay so when one is put in its place. -/
theorem Sorted.insertField (h : Sorted fields) (key : String) (value : Json) :
    Sorted (insertField key value fields) := by
  induction fields with
  | nil => exact List.pairwise_singleton _ _
  | cons first rest ih =>
    obtain ⟨hfirst, hrest⟩ := List.pairwise_cons.mp h
    rw [Json.insertField]
    split_ifs with hlt heq
    · refine List.pairwise_cons.mpr ⟨fun field hfield => ?_, h⟩
      rcases List.mem_cons.mp hfield with rfl | hfield
      · exact hlt
      · exact String.lt_trans hlt (hfirst field hfield)
    · exact List.pairwise_cons.mpr ⟨heq ▸ hfirst, hrest⟩
    · refine List.pairwise_cons.mpr ⟨fun field hfield => ?_, ih hrest⟩
      rcases eq_or_mem_of_mem_insertField hfield with rfl | hfield
      · exact Std.lt_of_le_of_ne (String.not_lt.mp hlt) (Ne.symm heq)
      · exact hfirst field hfield

/-- A field with a new key is only put in its place. -/
theorem insertField_perm (h : key ∉ fields.map Prod.fst) :
    (insertField key value fields).Perm ((key, value) :: fields) := by
  induction fields with
  | nil => exact .refl _
  | cons first rest ih =>
    rw [List.map_cons, List.mem_cons, not_or] at h
    rw [insertField]
    split_ifs with hlt heq
    · exact .refl _
    · exact absurd heq h.1
    · exact ((ih h.2).cons first).trans (.swap _ _ _)

/-- Fields are sorted by insertion. -/
theorem sorted_sortFields (fields : List (String × Json)) : Sorted (sortFields fields) := by
  have hfold : ∀ sorted, Sorted sorted →
      Sorted (fields.foldl (fun sorted field => insertField field.1 field.2 sorted) sorted) := by
    induction fields with
    | nil => exact fun _ h => h
    | cons first rest ih => exact fun _ h => ih _ (h.insertField first.1 first.2)
  exact hfold [] .nil

/-- Sorting adds no field. -/
theorem mem_of_mem_sortFields {field : String × Json} (h : field ∈ sortFields fields) :
    field ∈ fields := by
  have hfold : ∀ fields sorted : List (String × Json),
      field ∈ fields.foldl (fun sorted field => insertField field.1 field.2 sorted) sorted →
        field ∈ sorted ∨ field ∈ fields := by
    intro fields
    induction fields with
    | nil => exact fun _ h => .inl h
    | cons first rest ih =>
      intro sorted hmem
      rcases ih _ hmem with hmem | hmem
      · rcases eq_or_mem_of_mem_insertField hmem with rfl | hmem
        · exact .inr List.mem_cons_self
        · exact .inl hmem
      · exact .inr (List.mem_cons_of_mem _ hmem)
  exact (hfold fields [] h).resolve_left List.not_mem_nil

/-- Sorting fields of distinct keys puts them into another order. -/
theorem sortFields_perm (h : (fields.map Prod.fst).Nodup) : (sortFields fields).Perm fields := by
  -- The fields are put in their places one by one, into those that are there already.
  have hfold : ∀ sorted, ((sorted ++ fields).map Prod.fst).Nodup →
      (fields.foldl (fun sorted field => insertField field.1 field.2 sorted) sorted).Perm
        (sorted ++ fields) := by
    induction fields with
    | nil =>
      intro sorted _
      rw [List.append_nil]
      exact .refl _
    | cons first rest ih =>
      intro sorted hnodup
      have hnew : first.1 ∉ sorted.map Prod.fst := by
        intro hmem
        rw [List.map_append, List.map_cons] at hnodup
        exact List.disjoint_of_nodup_append hnodup hmem List.mem_cons_self
      have hperm : (insertField first.1 first.2 sorted ++ rest).Perm (sorted ++ first :: rest) :=
        ((insertField_perm hnew).append_right rest).trans List.perm_middle.symm
      exact (ih (List.nodup_cons.mp h).2 _ ((hperm.map Prod.fst).nodup_iff.mpr hnodup)).trans hperm
  exact hfold [] h

/-- Fields that can be sorted into some order are. -/
theorem sortFields_eq_of_perm (hsorted : Sorted fields) (h : fields'.Perm fields) :
    sortFields fields' = fields := by
  have hnodup : (fields'.map Prod.fst).Nodup := (h.map Prod.fst).nodup_iff.mpr hsorted.nodup
  exact List.Perm.eq_of_pairwise (fun _ _ _ _ hlt hgt => absurd hgt (String.lt_asymm hlt))
    (sorted_sortFields fields') hsorted ((sortFields_perm hnodup).trans h)

/-- Sorted fields are left as they are. -/
theorem Sorted.sortFields_eq (h : Sorted fields) : sortFields fields = fields :=
  sortFields_eq_of_perm h (.refl _)

/-! ### Canonical values -/

/-- A value in canonical order. -/
def IsCanonical (j : Json) : Prop :=
  j.canonical = j

@[simp]
theorem isCanonical_null : IsCanonical .null := rfl

@[simp]
theorem isCanonical_bool (b : Bool) : IsCanonical (.bool b) := rfl

@[simp]
theorem isCanonical_int (n : Int) : IsCanonical (.int n) := rfl

@[simp]
theorem isCanonical_float (x : Binary64) : IsCanonical (.float x) := rfl

@[simp]
theorem isCanonical_str (s : String) : IsCanonical (.str s) := rfl

@[simp]
theorem isCanonical_ofText? (s : Option String) : IsCanonical (ofText? s) := by
  cases s <;> rfl

@[simp]
theorem isCanonical_ofNat? (n : Option Nat) : IsCanonical (ofNat? n) := by
  cases n <;> rfl

@[simp]
theorem isCanonical_ofInt? (n : Option Int) : IsCanonical (ofInt? n) := by
  cases n <;> rfl

@[simp]
theorem isCanonical_ofNumber (x : Binary64) : IsCanonical (ofNumber x) := by
  rw [ofNumber]
  split_ifs <;> rfl

/-- The canonical items, one by one. -/
theorem canonicalItems_eq (items : List Json) : canonicalItems items = items.map canonical := by
  induction items with
  | nil => rfl
  | cons item rest ih => rw [canonicalItems, ih, List.map_cons]

/-- The canonical fields, one by one. -/
theorem canonicalFields_eq (fields : List (String × Json)) :
    canonicalFields fields = fields.map fun field => (field.1, field.2.canonical) := by
  induction fields with
  | nil => rfl
  | cons field rest ih => rw [canonicalFields, ih, List.map_cons]

/-- The keys of canonical fields are the same. -/
@[simp]
theorem map_fst_canonicalFields (fields : List (String × Json)) :
    (canonicalFields fields).map Prod.fst = fields.map Prod.fst := by
  rw [canonicalFields_eq, List.map_map]
  rfl

/-- An array is canonical if its items are. -/
theorem isCanonical_arr_iff : IsCanonical (.arr items) ↔ ∀ item ∈ items, IsCanonical item := by
  rw [IsCanonical, canonical, canonicalItems_eq, Json.arr.injEq]
  conv_lhs => rhs; rw [← List.map_id items]
  exact List.map_inj_left

/-- An object is canonical if its fields are sorted and its values are canonical. -/
theorem isCanonical_obj_iff :
    IsCanonical (.obj fields) ↔ Sorted fields ∧ ∀ field ∈ fields, IsCanonical field.2 := by
  have hvalues : canonicalFields fields = fields ↔ ∀ field ∈ fields, IsCanonical field.2 := by
    rw [canonicalFields_eq]
    conv_lhs => rhs; rw [← List.map_id fields]
    rw [List.map_inj_left]
    simp [Prod.ext_iff, IsCanonical]
  rw [IsCanonical, canonical, Json.obj.injEq, ← hvalues]
  constructor
  · intro h
    have hsorted : Sorted fields := h ▸ sorted_sortFields _
    refine ⟨hsorted, ?_⟩
    rwa [(hsorted.of_map_fst (map_fst_canonicalFields fields)).sortFields_eq] at h
  · rintro ⟨hsorted, h⟩
    rw [h, hsorted.sortFields_eq]

/-- Every field of an object in canonical order is one of the object, in canonical form. -/
theorem exists_of_mem_canonical {field : String × Json}
    (h : field ∈ sortFields (canonicalFields fields)) :
    ∃ written ∈ fields, field = (written.1, written.2.canonical) := by
  have hmem := mem_of_mem_sortFields h
  rw [canonicalFields_eq] at hmem
  obtain ⟨written, hwritten, rfl⟩ := List.mem_map.mp hmem
  exact ⟨written, hwritten, rfl⟩

/-- The canonical form is canonical. -/
theorem isCanonical_canonical (j : Json) : j.canonical.IsCanonical := by
  induction j with
  | arr items ih =>
    rw [canonical, canonicalItems_eq, isCanonical_arr_iff]
    exact List.forall_mem_map.mpr ih
  | obj fields ih =>
    rw [canonical, isCanonical_obj_iff]
    refine ⟨sorted_sortFields _, fun _ hmem => ?_⟩
    obtain ⟨field, hfield, rfl⟩ := exists_of_mem_canonical hmem
    exact ih field hfield
  | _ => rfl

end PageScript.Json
