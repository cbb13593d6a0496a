import PageScript.Json.Reader
import PageScript.Proofs.Json.Canonical

/-!
# What a value is made of

The leaves of a value are the parts of it that are neither arrays nor objects, and its depth is the
number of levels that brackets are nested in it. Of these depends whether a value is the same after
it has been written as a text and read again: floating-point numbers may come out differently, the
integers of a text have 64 bits, and texts that are nested too deeply are not read.

* `Json.leaves`, `Json.depth` — the leaves and the depth of a value;
* `Json.HasWords`, `Json.HasNoFloats`, `Json.HasFiniteFloats` — what is asked of the leaves;
* `Json.IsBounded`, `Json.IsPortable` — what a text can hold, and what comes back from it as it was;
* `Json.leaves_canonical_subset`, `Json.depth_canonical_le` — bringing a value into canonical order
  adds no leaves and no levels;
* `Json.mapFloats`, `Json.canonical_mapFloats` — other floating-point numbers in the same value.
-/

namespace PageScript.Json

mutual

/-- The parts of a value that are neither arrays nor objects. -/
def leaves : Json → List Json
  | .arr items => leavesOfItems items
  | .obj fields => leavesOfFields fields
  | j => [j]

/-- The leaves of the items of an array. -/
def leavesOfItems : List Json → List Json
  | [] => []
  | item :: rest => leaves item ++ leavesOfItems rest

/-- The leaves of the values of an object. -/
def leavesOfFields : List (String × Json) → List Json
  | [] => []
  | (_, value) :: rest => leaves value ++ leavesOfFields rest

end

mutual

/-- The levels that brackets are nested in a value. -/
def depth : Json → Nat
  | .arr items => depthOfItems items + 1
  | .obj fields => depthOfFields fields + 1
  | _ => 0

/-- The depth of the deepest item of an array. -/
def depthOfItems : List Json → Nat
  | [] => 0
  | item :: rest => max (depth item) (depthOfItems rest)

/-- The depth of the deepest value of an object. -/
def depthOfFields : List (String × Json) → Nat
  | [] => 0
  | (_, value) :: rest => max (depth value) (depthOfFields rest)

end

/-- An integer of 64 bits, with or without sign. -/
def IsWord (n : Int) : Prop :=
  -9223372036854775808 ≤ n ∧ n ≤ maxWord

instance (n : Int) : Decidable (IsWord n) :=
  inferInstanceAs (Decidable (_ ∧ _))

/-- A natural number that fits in the machine is a word. -/
theorem isWord_toNat {n : Nat} (h : n < UInt64.size) : IsWord n := by
  rw [UInt64.size] at h
  rw [IsWord, maxWord]
  omega

/-- An integer of the machine is a word. -/
theorem isWord_toInt (n : Int64) : IsWord n.toInt := by
  have hleast := n.le_toInt
  have hgreatest := n.toInt_lt
  rw [IsWord, maxWord]
  omega

/-- Every integer in a value has 64 bits. -/
def HasWords (j : Json) : Prop :=
  ∀ n, .int n ∈ j.leaves → IsWord n

/-- There is no floating-point number in a value. -/
def HasNoFloats (j : Json) : Prop :=
  ∀ x, .float x ∉ j.leaves

/-- Every floating-point number in a value is finite. -/
def HasFiniteFloats (j : Json) : Prop :=
  ∀ x, .float x ∈ j.leaves → x.isFinite = true

variable {key : String} {j leaf : Json} {items : List Json} {fields : List (String × Json)}
  {d : Nat}

/-! ### Parts -/

/-- The leaves of a list of items are those of each of them. -/
private theorem mem_leavesOfItems :
    leaf ∈ leavesOfItems items ↔ ∃ item ∈ items, leaf ∈ item.leaves := by
  induction items with
  | nil => simp [leavesOfItems]
  | cons item rest ih => simp [leavesOfItems, ih]

/-- The leaves of a list of fields are those of each value. -/
private theorem mem_leavesOfFields :
    leaf ∈ leavesOfFields fields ↔ ∃ field ∈ fields, leaf ∈ field.2.leaves := by
  induction fields with
  | nil => simp [leavesOfFields]
  | cons field rest ih =>
    obtain ⟨key, value⟩ := field
    simp [leavesOfFields, ih]

/-- The leaves of an array are those of its items. -/
@[simp]
theorem mem_leaves_arr : leaf ∈ (Json.arr items).leaves ↔ ∃ item ∈ items, leaf ∈ item.leaves := by
  rw [leaves, mem_leavesOfItems]

/-- The leaves of an object are those of its values. -/
@[simp]
theorem mem_leaves_obj :
    leaf ∈ (Json.obj fields).leaves ↔ ∃ field ∈ fields, leaf ∈ field.2.leaves := by
  rw [leaves, mem_leavesOfFields]

/-- A list of items is as deep as the deepest of them. -/
theorem depthOfItems_le_iff : depthOfItems items ≤ d ↔ ∀ item ∈ items, item.depth ≤ d := by
  induction items with
  | nil => simp [depthOfItems]
  | cons item rest ih => rw [depthOfItems, Nat.max_le, ih, List.forall_mem_cons]

/-- A list of fields is as deep as the deepest value. -/
theorem depthOfFields_le_iff : depthOfFields fields ≤ d ↔ ∀ field ∈ fields, field.2.depth ≤ d := by
  induction fields with
  | nil => simp [depthOfFields]
  | cons field rest ih =>
    obtain ⟨key, value⟩ := field
    rw [depthOfFields, Nat.max_le, ih, List.forall_mem_cons]

/-- An array is one level deeper than its items. -/
@[simp]
theorem depth_arr_le_iff : (Json.arr items).depth ≤ d + 1 ↔ ∀ item ∈ items, item.depth ≤ d := by
  rw [depth, Nat.add_le_add_iff_right, depthOfItems_le_iff]

/-- An object is one level deeper than its values. -/
@[simp]
theorem depth_obj_le_iff :
    (Json.obj fields).depth ≤ d + 1 ↔ ∀ field ∈ fields, field.2.depth ≤ d := by
  rw [depth, Nat.add_le_add_iff_right, depthOfFields_le_iff]

/-- An array has only words if its items do. -/
theorem hasWords_arr_iff : HasWords (.arr items) ↔ ∀ item ∈ items, item.HasWords := by
  simp only [HasWords, mem_leaves_arr]
  grind

/-- An object has only words if its values do. -/
theorem hasWords_obj_iff : HasWords (.obj fields) ↔ ∀ field ∈ fields, field.2.HasWords := by
  simp only [HasWords, mem_leaves_obj]
  grind

/-- An array has only finite numbers if its items do. -/
theorem hasFiniteFloats_arr_iff :
    HasFiniteFloats (.arr items) ↔ ∀ item ∈ items, item.HasFiniteFloats := by
  simp only [HasFiniteFloats, mem_leaves_arr]
  grind

/-- An object has only finite numbers if its values do. -/
theorem hasFiniteFloats_obj_iff :
    HasFiniteFloats (.obj fields) ↔ ∀ field ∈ fields, field.2.HasFiniteFloats := by
  simp only [HasFiniteFloats, mem_leaves_obj]
  grind

@[simp]
theorem hasFiniteFloats_bool (b : Bool) : HasFiniteFloats (.bool b) := by
  simp [HasFiniteFloats, leaves]

@[simp]
theorem hasFiniteFloats_int (n : Int) : HasFiniteFloats (.int n) := by
  simp [HasFiniteFloats, leaves]

@[simp]
theorem hasFiniteFloats_str (s : String) : HasFiniteFloats (.str s) := by
  simp [HasFiniteFloats, leaves]

/-- What a number is written as is finite. -/
@[simp]
theorem hasFiniteFloats_ofNumber (x : Binary64) : HasFiniteFloats (ofNumber x) := by
  rw [ofNumber]
  split_ifs with hx
  · intro y hy
    obtain rfl : y = x := by simpa [leaves] using hy
    exact hx
  · simp [HasFiniteFloats, leaves]

/-- A text that may be absent adds no number. -/
theorem hasFiniteFloats_obj_append_fieldIfPresent
    (h : ∀ field ∈ fields, field.2.HasFiniteFloats) (name : String) (s : Option String) :
    HasFiniteFloats (.obj (fields ++ fieldIfPresent name s)) := by
  rw [hasFiniteFloats_obj_iff, List.forall_mem_append]
  refine ⟨h, ?_⟩
  cases s <;> simp [fieldIfPresent]

/-- An array has no floating-point numbers if its items have none. -/
theorem hasNoFloats_arr_iff : HasNoFloats (.arr items) ↔ ∀ item ∈ items, item.HasNoFloats := by
  simp only [HasNoFloats, mem_leaves_arr]
  grind

/-- An object has no floating-point numbers if its values have none. -/
theorem hasNoFloats_obj_iff :
    HasNoFloats (.obj fields) ↔ ∀ field ∈ fields, field.2.HasNoFloats := by
  simp only [HasNoFloats, mem_leaves_obj]
  grind

/-! ### Canonical order -/

/-- The canonical form has no leaf of its own. -/
theorem leaves_canonical_subset (j : Json) : j.canonical.leaves ⊆ j.leaves := by
  intro leaf
  induction j with
  | arr items ih =>
    rw [canonical, canonicalItems_eq, mem_leaves_arr, mem_leaves_arr]
    rintro ⟨_, hmem, hleaf⟩
    obtain ⟨item, hitem, rfl⟩ := List.mem_map.mp hmem
    exact ⟨item, hitem, ih item hitem hleaf⟩
  | obj fields ih =>
    rw [canonical, mem_leaves_obj, mem_leaves_obj]
    rintro ⟨_, hmem, hleaf⟩
    obtain ⟨field, hfield, rfl⟩ := exists_of_mem_canonical hmem
    exact ⟨field, hfield, ih field hfield hleaf⟩
  | _ => exact fun h => h

/-- The canonical form of words has only words. -/
theorem HasWords.canonical (h : j.HasWords) : j.canonical.HasWords :=
  fun n hn => h n (leaves_canonical_subset j hn)

/-- The canonical form of finite numbers has only finite numbers. -/
theorem HasFiniteFloats.canonical (h : j.HasFiniteFloats) : j.canonical.HasFiniteFloats :=
  fun x hx => h x (leaves_canonical_subset j hx)

/-- The canonical form has no floating-point number of its own. -/
theorem HasNoFloats.canonical (h : j.HasNoFloats) : j.canonical.HasNoFloats :=
  fun x hx => h x (leaves_canonical_subset j hx)

/-- The canonical form is no deeper. -/
theorem depth_canonical_le (j : Json) : j.canonical.depth ≤ j.depth := by
  induction j with
  | arr items ih =>
    rw [canonical, canonicalItems_eq, depth.eq_1 items, depth_arr_le_iff, List.forall_mem_map]
    exact fun item hitem =>
      Nat.le_trans (ih item hitem) (depthOfItems_le_iff.mp (Nat.le_refl _) item hitem)
  | obj fields ih =>
    rw [canonical, depth.eq_2 fields, depth_obj_le_iff]
    intro _ hmem
    obtain ⟨field, hfield, rfl⟩ := exists_of_mem_canonical hmem
    exact Nat.le_trans (ih field hfield) (depthOfFields_le_iff.mp (Nat.le_refl _) field hfield)
  | _ => exact Nat.le_refl _

/-! ### Other floating-point numbers -/

/-- The function takes finite numbers to finite numbers. -/
def KeepsFinite (f : Binary64 → Binary64) : Prop :=
  ∀ x : Binary64, x.isFinite = true → (f x).isFinite = true

section MapFloats

variable (f : Binary64 → Binary64)

mutual

/-- The value with other floating-point numbers. -/
def mapFloats : Json → Json
  | .arr items => .arr (mapFloatsOfItems items)
  | .obj fields => .obj (mapFloatsOfFields fields)
  | .null => .null
  | .bool b => .bool b
  | .int n => .int n
  | .float x => .float (f x)
  | .str s => .str s

/-- The items of an array with other floating-point numbers. -/
def mapFloatsOfItems : List Json → List Json
  | [] => []
  | item :: rest => mapFloats item :: mapFloatsOfItems rest

/-- The fields of an object with other floating-point numbers. -/
def mapFloatsOfFields : List (String × Json) → List (String × Json)
  | [] => []
  | (key, value) :: rest => (key, mapFloats value) :: mapFloatsOfFields rest

end

/-- The copies of the items, one by one. -/
theorem mapFloatsOfItems_eq (items : List Json) :
    mapFloatsOfItems f items = items.map (mapFloats f) := by
  induction items with
  | nil => rfl
  | cons item rest ih => rw [mapFloatsOfItems, ih, List.map_cons]

/-- The copies of the fields, one by one. -/
theorem mapFloatsOfFields_eq (fields : List (String × Json)) :
    mapFloatsOfFields f fields = fields.map fun field => (field.1, field.2.mapFloats f) := by
  induction fields with
  | nil => rfl
  | cons field rest ih => rw [mapFloatsOfFields, ih, List.map_cons]

/-- An array is copied item by item. -/
theorem mapFloats_arr (items : List Json) :
    (Json.arr items).mapFloats f = .arr (items.map (mapFloats f)) := by
  rw [mapFloats, mapFloatsOfItems_eq]

/-- An object is copied value by value. -/
theorem mapFloats_obj (fields : List (String × Json)) :
    (Json.obj fields).mapFloats f =
      .obj (fields.map fun field => (field.1, field.2.mapFloats f)) := by
  rw [mapFloats, mapFloatsOfFields_eq]

/-- A copy that changes no number is the value itself. -/
theorem mapFloats_id (j : Json) : j.mapFloats id = j := by
  induction j with
  | arr items ih => rw [mapFloats_arr, List.map_congr_left ih, List.map_id']
  | obj fields ih =>
    have hfields : ∀ field ∈ fields, (field.1, field.2.mapFloats id) = field :=
      fun field hfield => by rw [ih field hfield]
    rw [mapFloats_obj, List.map_congr_left hfields, List.map_id']
  | _ => rfl

/-- A copy of a copy is the copy by both changes. -/
theorem mapFloats_mapFloats (g : Binary64 → Binary64) (j : Json) :
    (j.mapFloats f).mapFloats g = j.mapFloats (g ∘ f) := by
  induction j with
  | arr items ih => simpa [mapFloats_arr] using ih
  | obj fields ih => simpa [mapFloats_obj] using ih
  | _ => rfl

/-- A field that is put in its place and copied is copied and put in its place. -/
theorem mapFloats_insertField (key : String) (value : Json) (fields : List (String × Json)) :
    (insertField key value fields).map (fun field => (field.1, field.2.mapFloats f)) =
      insertField key (value.mapFloats f)
        (fields.map fun field => (field.1, field.2.mapFloats f)) := by
  induction fields with
  | nil => rfl
  | cons field rest ih =>
    obtain ⟨k, v⟩ := field
    rw [insertField, List.map_cons, insertField]
    split_ifs <;> simp [ih]

/-- Fields that are sorted and copied are copied and sorted. -/
theorem mapFloats_sortFields (fields : List (String × Json)) :
    (sortFields fields).map (fun field => (field.1, field.2.mapFloats f)) =
      sortFields (fields.map fun field => (field.1, field.2.mapFloats f)) := by
  have hfold : ∀ sorted : List (String × Json),
      (fields.foldl (fun sorted field => insertField field.1 field.2 sorted) sorted).map
          (fun field => (field.1, field.2.mapFloats f)) =
        (fields.map fun field => (field.1, field.2.mapFloats f)).foldl
          (fun sorted field => insertField field.1 field.2 sorted)
          (sorted.map fun field => (field.1, field.2.mapFloats f)) := by
    induction fields with
    | nil => exact fun _ => rfl
    | cons field rest ih =>
      intro sorted
      rw [List.foldl_cons, ih, mapFloats_insertField]
      rfl
  exact hfold []

/-- Bringing a value into canonical order looks at no floating-point numbers. -/
theorem canonical_mapFloats (j : Json) : (j.mapFloats f).canonical = j.canonical.mapFloats f := by
  induction j with
  | arr items ih =>
    rw [mapFloats_arr, canonical, canonical, canonicalItems_eq, canonicalItems_eq, mapFloats_arr,
      List.map_map, List.map_map]
    congr 1
    exact List.map_congr_left ih
  | obj fields ih =>
    have hfields : ∀ field ∈ fields, (field.1, (field.2.mapFloats f).canonical) =
        (field.1, field.2.canonical.mapFloats f) := fun field hfield => by rw [ih field hfield]
    rw [mapFloats_obj, canonical, canonical, canonicalFields_eq, canonicalFields_eq, mapFloats_obj,
      mapFloats_sortFields, List.map_map, List.map_map]
    congr 2
    exact List.map_congr_left hfields
  | _ => rfl

end MapFloats

/-- A copy that keeps numbers finite is finite. -/
theorem HasFiniteFloats.mapFloats {f : Binary64 → Binary64} (h : j.HasFiniteFloats)
    (hf : KeepsFinite f) : (j.mapFloats f).HasFiniteFloats := by
  induction j with
  | arr items ih =>
    rw [mapFloats_arr, hasFiniteFloats_arr_iff, List.forall_mem_map]
    exact fun item hitem => ih item hitem (hasFiniteFloats_arr_iff.mp h item hitem)
  | obj fields ih =>
    rw [mapFloats_obj, hasFiniteFloats_obj_iff, List.forall_mem_map]
    exact fun field hfield => ih field hfield (hasFiniteFloats_obj_iff.mp h field hfield)
  | float x =>
    intro y hy
    obtain rfl : y = f x := by simpa [Json.mapFloats, leaves] using hy
    exact hf x (h x (.head _))
  | _ => exact h

/-! ### Bounds -/

/-- A value of at most some levels, whose integers have 64 bits. -/
structure IsBounded (levels : Nat) (j : Json) : Prop where
  hasWords : j.HasWords
  depth_le : j.depth ≤ levels

/-- An array is bounded if its items are, one level further in. -/
theorem isBounded_arr_iff : IsBounded (d + 1) (.arr items) ↔ ∀ item ∈ items, item.IsBounded d := by
  constructor
  · rintro ⟨hwords, hdepth⟩ item hitem
    exact ⟨hasWords_arr_iff.mp hwords item hitem, depth_arr_le_iff.mp hdepth item hitem⟩
  · intro h
    exact ⟨hasWords_arr_iff.mpr fun item hitem => (h item hitem).hasWords,
      depth_arr_le_iff.mpr fun item hitem => (h item hitem).depth_le⟩

/-- An object is bounded if its values are, one level further in. -/
theorem isBounded_obj_iff :
    IsBounded (d + 1) (.obj fields) ↔ ∀ field ∈ fields, field.2.IsBounded d := by
  constructor
  · rintro ⟨hwords, hdepth⟩ field hfield
    exact ⟨hasWords_obj_iff.mp hwords field hfield, depth_obj_le_iff.mp hdepth field hfield⟩
  · intro h
    exact ⟨hasWords_obj_iff.mpr fun field hfield => (h field hfield).hasWords,
      depth_obj_le_iff.mpr fun field hfield => (h field hfield).depth_le⟩

@[simp]
theorem isBounded_null : IsBounded d .null := by
  constructor <;> simp [HasWords, leaves, depth]

@[simp]
theorem isBounded_bool (b : Bool) : IsBounded d (.bool b) := by
  constructor <;> simp [HasWords, leaves, depth]

@[simp]
theorem isBounded_str (s : String) : IsBounded d (.str s) := by
  constructor <;> simp [HasWords, leaves, depth]

@[simp]
theorem isBounded_float (x : Binary64) : IsBounded d (.float x) := by
  constructor <;> simp [HasWords, leaves, depth]

/-- An integer is bounded if it is a word. -/
@[simp]
theorem isBounded_int_iff {n : Int} : IsBounded d (.int n) ↔ IsWord n := by
  constructor
  · exact fun h => h.hasWords n (.head _)
  · intro h
    constructor <;> simp [HasWords, leaves, depth, h]

/-- Other floating-point numbers change no bounds. -/
theorem IsBounded.mapFloats (h : j.IsBounded d) (f : Binary64 → Binary64) :
    (j.mapFloats f).IsBounded d := by
  induction j generalizing d with
  | arr items ih =>
    obtain ⟨d, rfl⟩ := Nat.exists_eq_add_one_of_ne_zero (Nat.ne_of_gt (Nat.lt_of_lt_of_le
      (Nat.succ_pos _) h.depth_le))
    rw [mapFloats_arr, isBounded_arr_iff, List.forall_mem_map]
    exact fun item hitem => ih item hitem (isBounded_arr_iff.mp h item hitem)
  | obj fields ih =>
    obtain ⟨d, rfl⟩ := Nat.exists_eq_add_one_of_ne_zero (Nat.ne_of_gt (Nat.lt_of_lt_of_le
      (Nat.succ_pos _) h.depth_le))
    rw [mapFloats_obj, isBounded_obj_iff, List.forall_mem_map]
    exact fun field hfield => ih field hfield (isBounded_obj_iff.mp h field hfield)
  | float x => exact isBounded_float _
  | _ => exact h

/-- The canonical form is bounded like the value. -/
theorem IsBounded.canonical (h : j.IsBounded d) : j.canonical.IsBounded d :=
  ⟨h.hasWords.canonical, Nat.le_trans (depth_canonical_le j) h.depth_le⟩

/-- A value that a text carries without loss: it is bounded and has no floating-point numbers. -/
structure IsPortable (levels : Nat) (j : Json) : Prop extends IsBounded levels j where
  hasNoFloats : j.HasNoFloats

/-- What is portable at some level is so at a higher one. -/
theorem IsPortable.mono {levels levels' : Nat} (h : j.IsPortable levels) (hle : levels ≤ levels') :
    j.IsPortable levels' :=
  ⟨⟨h.hasWords, Nat.le_trans h.depth_le hle⟩, h.hasNoFloats⟩

/-- The canonical form is as portable as the value. -/
theorem IsPortable.canonical (h : j.IsPortable d) : j.canonical.IsPortable d :=
  ⟨h.toIsBounded.canonical, h.hasNoFloats.canonical⟩

/-- An array is portable if its items are, one level further in. -/
@[simp]
theorem isPortable_arr_iff :
    IsPortable (d + 1) (.arr items) ↔ ∀ item ∈ items, item.IsPortable d := by
  constructor
  · rintro ⟨hbounded, hfloats⟩ item hitem
    exact ⟨isBounded_arr_iff.mp hbounded item hitem, hasNoFloats_arr_iff.mp hfloats item hitem⟩
  · intro h
    exact ⟨isBounded_arr_iff.mpr fun item hitem => (h item hitem).toIsBounded,
      hasNoFloats_arr_iff.mpr fun item hitem => (h item hitem).hasNoFloats⟩

/-- An object is portable if its values are, one level further in. -/
@[simp]
theorem isPortable_obj_iff :
    IsPortable (d + 1) (.obj fields) ↔ ∀ field ∈ fields, field.2.IsPortable d := by
  constructor
  · rintro ⟨hbounded, hfloats⟩ field hfield
    exact ⟨isBounded_obj_iff.mp hbounded field hfield, hasNoFloats_obj_iff.mp hfloats field hfield⟩
  · intro h
    exact ⟨isBounded_obj_iff.mpr fun field hfield => (h field hfield).toIsBounded,
      hasNoFloats_obj_iff.mpr fun field hfield => (h field hfield).hasNoFloats⟩

@[simp]
theorem isPortable_null : IsPortable d .null :=
  ⟨isBounded_null, by simp [HasNoFloats, leaves]⟩

@[simp]
theorem isPortable_str (s : String) : IsPortable d (.str s) :=
  ⟨isBounded_str s, by simp [HasNoFloats, leaves]⟩

/-- An integer is portable if it is a word. -/
@[simp]
theorem isPortable_int_iff {n : Int} : IsPortable d (.int n) ↔ IsWord n :=
  ⟨fun h => isBounded_int_iff.mp h.toIsBounded,
    fun h => ⟨isBounded_int_iff.mpr h, by simp [HasNoFloats, leaves]⟩⟩

end PageScript.Json
