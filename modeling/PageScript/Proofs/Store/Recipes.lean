import Mathlib.Data.Option.Basic
import PageScript.Proofs.Event.Copy
import PageScript.Proofs.Json.Float
import PageScript.Proofs.Store.Memory

/-!
# Recipes in a store

A store that recipes are saved in one after another has under each key what was saved under it last.
In a file it is a copy: every call reads the text of the file anew, and the numbers in a text may be
read as other ones.

* `Store.latest?` — the recipe that was saved last under a key;
* `Store.exists_get_of_save` — what saving a recipe changes in any store;
* `Store.KeepsSaves.save`, `Store.KeepsSaves.load` — saving and loading.
-/

namespace PageScript

open Json

/-- The copy of an object has the copy of a value under its key. -/
theorem Json.lookup_mapFloats (f : Binary64 → Binary64) (key : String)
    (fields : List (String × Json)) :
    lookup key (fields.map fun field => (field.1, field.2.mapFloats f)) =
      (lookup key fields).map (mapFloats f) := by
  induction fields with
  | nil => rfl
  | cons field rest ih =>
    obtain ⟨k, v⟩ := field
    rw [List.map_cons, lookup, lookup, ih]
    split_ifs <;> rfl

namespace Store

/-- The last of some recipes with a key. -/
def latest? (key : String) (saves : List Recipe) : Option Recipe :=
  saves.reverse.find? fun recipe => Recipe.keyFor recipe.name = key

/-- The value is the record of the recipe, maybe with other finite numbers in it. -/
def IsSavedAs (recipe : Recipe) (value : Json) : Prop :=
  ∃ f, KeepsFinite f ∧ value = recipe.toJson.canonical.mapFloats f

variable {saves : List Recipe} {recipe : Recipe} {entries : Entries} {content : FileContent}
  {f : Binary64 → Binary64} {s s' : Store}

/-- The recipe saved last under a key, after one more save. -/
theorem latest?_append_singleton (key : String) (saves : List Recipe) (recipe : Recipe) :
    latest? key (saves ++ [recipe]) =
      if Recipe.keyFor recipe.name = key then some recipe else latest? key saves := by
  rw [latest?, List.reverse_concat, List.find?_cons]
  by_cases h : Recipe.keyFor recipe.name = key <;> simp [h, latest?]

/-- There is a latest recipe under a key just if one was saved under it. -/
theorem latest?_isSome_iff {key : String} {saves : List Recipe} :
    (latest? key saves).isSome ↔ ∃ recipe ∈ saves, Recipe.keyFor recipe.name = key := by
  simp [latest?]

/-- The latest recipe under a key was saved. -/
theorem mem_of_latest?_eq_some {key : String} (h : latest? key saves = some recipe) :
    recipe ∈ saves :=
  List.mem_reverse.mp (List.mem_of_find?_eq_some h)

/-! ### Values that have been saved -/

/-- A recipe is saved as its record. -/
theorem isSavedAs_canonical (recipe : Recipe) : IsSavedAs recipe recipe.toJson.canonical :=
  ⟨id, fun _ hx => hx, (mapFloats_id _).symm⟩

variable {value : Json}

/-- A recipe that is copied as a value is still saved as it. -/
theorem IsSavedAs.mapFloats (h : IsSavedAs recipe value) (hf : KeepsFinite f) :
    IsSavedAs recipe (value.mapFloats f) := by
  obtain ⟨g, hg, rfl⟩ := h
  exact ⟨f ∘ g, fun x hx => hf _ (hg x hx), mapFloats_mapFloats g f _⟩

/-- A recipe is saved within the levels that can be read. -/
theorem IsSavedAs.isBounded (h : IsSavedAs recipe value) : value.IsBounded 4 := by
  obtain ⟨f, -, rfl⟩ := h
  exact recipe.isBounded_toJson.canonical.mapFloats f

/-- A recipe is saved in canonical form. -/
theorem IsSavedAs.isCanonical (h : IsSavedAs recipe value) : value.IsCanonical := by
  obtain ⟨f, -, rfl⟩ := h
  rw [← canonical_mapFloats]
  exact isCanonical_canonical _

/-- A recipe is saved with finite numbers. -/
theorem IsSavedAs.hasFiniteFloats (h : IsSavedAs recipe value) : value.HasFiniteFloats := by
  obtain ⟨f, hf, rfl⟩ := h
  exact recipe.hasFiniteFloats_toJson.canonical.mapFloats hf

/-- A recipe is read from its record. Where the place of a click is not finite there is nothing to
read: such a number is left out of the record. -/
theorem run_decoder_mapFloats (hf : KeepsFinite f) (hfinite : recipe.IsFinite) :
    Recipe.decoder.run (recipe.toJson.canonical.mapFloats f) = .ok (recipe.mapFloats f) := by
  -- What is read is the recipe with the other numbers, of which the value is the record.
  rw [← canonical_mapFloats, ← Recipe.toJson_mapFloats hf hfinite]
  exact ((Recipe.recovers_toJson (Recipe.isFinite_mapFloats hf hfinite)).readsBack
    (Recipe.arranged_canonical_toJson _)).canonical

/-- The values are those of recipes that were saved one after another. -/
structure HoldsSaves (saves : List Recipe) (entries : Entries) : Prop where
  sorted : Sorted entries
  recipes : ∀ field ∈ entries, ∃ recipe : Recipe, IsSavedAs recipe field.2
  latest : ∀ key, Option.Rel IsSavedAs (latest? key saves) (lookup key entries)

/-- Nothing holds no saves. -/
theorem holdsSaves_nil : HoldsSaves [] [] :=
  ⟨.nil, List.forall_mem_nil _, fun _ => .none⟩

/-- An entry that is put in its place holds one more save. -/
theorem HoldsSaves.insertField (h : HoldsSaves saves entries) (recipe : Recipe) :
    HoldsSaves (saves ++ [recipe])
      (Json.insertField (Recipe.keyFor recipe.name) recipe.toJson.canonical entries) where
  sorted := h.sorted.insertField _ _
  recipes field hfield := by
    rcases eq_or_mem_of_mem_insertField hfield with rfl | hfield
    · exact ⟨recipe, isSavedAs_canonical recipe⟩
    · exact h.recipes field hfield
  latest key := by
    rw [latest?_append_singleton, lookup_insertField]
    split_ifs
    · exact .some (isSavedAs_canonical recipe)
    · exact h.latest key

/-- A copy of entries holds the same saves. -/
theorem HoldsSaves.mapFloats (h : HoldsSaves saves entries) (hf : KeepsFinite f) :
    HoldsSaves saves (entries.map fun field => (field.1, field.2.mapFloats f)) where
  sorted := h.sorted.of_map_fst (by rw [List.map_map]; rfl)
  recipes := List.forall_mem_map.mpr fun field hfield => by
    obtain ⟨recipe, hsaved⟩ := h.recipes field hfield
    exact ⟨recipe, hsaved.mapFloats hf⟩
  latest key := by
    have hlatest := h.latest key
    rw [lookup_mapFloats]
    generalize latest? key saves = latest at hlatest ⊢
    generalize lookup key entries = value at hlatest ⊢
    cases hlatest with
    | some hsaved => exact .some (hsaved.mapFloats hf)
    | none => exact .none

/-- Recipes fit into a file. -/
theorem HoldsSaves.isBounded (h : HoldsSaves saves entries) :
    (Json.obj entries).IsBounded maxDepth := by
  refine isBounded_obj_iff.mpr fun field hfield => ?_
  obtain ⟨_, hsaved⟩ := h.recipes field hfield
  exact ⟨hsaved.isBounded.hasWords, Nat.le_trans hsaved.isBounded.depth_le (by decide)⟩

/-- Entries that hold saves are canonical. -/
theorem HoldsSaves.isCanonical (h : HoldsSaves saves entries) : (Json.obj entries).IsCanonical := by
  refine isCanonical_obj_iff.mpr ⟨h.sorted, fun field hfield => ?_⟩
  obtain ⟨_, hsaved⟩ := h.recipes field hfield
  exact hsaved.isCanonical

/-- Entries that hold saves have finite numbers. -/
theorem HoldsSaves.hasFiniteFloats (h : HoldsSaves saves entries) :
    (Json.obj entries).HasFiniteFloats := by
  refine hasFiniteFloats_obj_iff.mpr fun field hfield => ?_
  obtain ⟨_, hsaved⟩ := h.recipes field hfield
  exact hsaved.hasFiniteFloats

/-- A file to which values are written holds them, maybe with other finite numbers in them. -/
theorem exists_holds_fileText (hcanonical : (Json.obj entries).IsCanonical)
    (hreadable : (Json.obj entries).IsReadable maxDepth) :
    ∃ f, KeepsFinite f ∧ Holds (.text (fileText entries))
      (entries.map fun field => (field.1, field.2.mapFloats f)) := by
  -- The numbers in the text are read by one function, which leaves everything else as it is.
  obtain ⟨f, hf, hreads⟩ := exists_readsFloatsBy
  refine ⟨f, hf, .object (isBlankText_fileText entries) ?_⟩
  rw [fileText,
    parse_pretty_eq_mapFloats hreadable.toIsBounded (hreads _ hreadable.hasFiniteFloats),
    canonical_mapFloats, hcanonical, mapFloats_obj]

/-- The text of such values is that of a file that holds such values. -/
theorem HoldsSaves.exists_holds (h : HoldsSaves saves entries) :
    ∃ entries', Holds (.text (fileText entries)) entries' ∧ HoldsSaves saves entries' := by
  obtain ⟨f, hf, hholds⟩ := exists_holds_fileText h.isCanonical ⟨h.isBounded, h.hasFiniteFloats⟩
  exact ⟨_, hholds, h.mapFloats hf⟩

/-! ### Calls -/

/-- The store has what recipes that were saved one after another come to. -/
inductive KeepsSaves (saves : List Recipe) : Store → Prop
  | memory {entries : Entries} (h : HoldsSaves saves entries) : KeepsSaves saves (.memory entries)
  | file {content : FileContent} {entries : Entries} (hfile : Holds content entries)
      (h : HoldsSaves saves entries) : KeepsSaves saves (.file content)

/-- A store has a value under a key. In a file it is what the text of the file was written from. -/
inductive Has (key : String) (value : Json) : Store → Prop
  | memory {entries : Entries} (h : lookup key entries = some value) :
      Has key value (.memory entries)
  | file {entries : Entries} (h : lookup key entries = some value) :
      Has key value (.file (.text (fileText entries)))

/-- An empty store keeps no saves. -/
theorem keepsSaves_of_entries_eq_nil (h : s.entries = .ok []) : KeepsSaves [] s := by
  cases s with
  | memory entries =>
    cases h
    exact .memory holdsSaves_nil
  | file content => exact .file (readFile_eq_ok_iff.mp h) holdsSaves_nil

/-- A recipe is saved under its key, along with what has been saved. -/
theorem KeepsSaves.save (h : KeepsSaves saves s) (recipe : Recipe) :
    ∃ s', s.save recipe = .ok s' ∧ KeepsSaves (saves ++ [recipe]) s' ∧
      Has (Recipe.keyFor recipe.name) recipe.toJson.canonical s' := by
  cases h with
  | @memory entries h =>
    refine ⟨_, rfl, .memory (h.insertField recipe), .memory ?_⟩
    rw [lookup_insertField, if_pos rfl]
  | @file content entries hfile h =>
    obtain ⟨entries', hholds, hsaves⟩ := (h.insertField recipe).exists_holds
    refine ⟨_, set_file hfile _ _, .file hholds hsaves, .file ?_⟩
    rw [lookup_insertField, if_pos rfl]

/-- Saving a recipe changes what is found under its key only, but numbers that a file holds may be
read as other ones. -/
theorem exists_get_of_save (h : s.save recipe = .ok s') :
    ∃ f, KeepsFinite f ∧ (∀ entries, s = .memory entries → f = id) ∧
      ∀ key, ∃ found, s.get key = .ok found ∧
        s'.get key = .ok ((if Recipe.keyFor recipe.name = key then some recipe.toJson.canonical
          else found).map (Json.mapFloats f)) := by
  cases s with
  | memory entries =>
    cases h
    refine ⟨id, fun _ hx => hx, fun _ _ => rfl, fun key => ⟨lookup key entries, rfl, ?_⟩⟩
    have hid : Json.mapFloats id = id := funext mapFloats_id
    simp only [get, Store.entries, Except.map, lookup_insertField, hid, Option.map_id, id_eq]
  | file content =>
    obtain ⟨entries, hread⟩ : ∃ entries, readFile content = .ok entries := by
      cases hread : readFile content with
      | ok entries => exact ⟨entries, rfl⟩
      | error e =>
        rw [save, Store.set, hread] at h
        cases h
    have hholds := readFile_eq_ok_iff.mp hread
    obtain ⟨hcanonical, hreadable⟩ := hholds.canonical_and_readable
    -- The recipe and what the file holds are nested less deeply than the reader goes.
    have hreadable' : (Json.obj (Json.insertField (Recipe.keyFor recipe.name)
        recipe.toJson.canonical entries)).IsReadable maxDepth := by
      refine isReadable_obj_iff.mpr fun field hfield => ?_
      rcases eq_or_mem_of_mem_insertField hfield with rfl | hfield
      · have hbounded := recipe.isBounded_toJson.canonical
        exact ⟨⟨hbounded.hasWords, hbounded.depth_le.trans (by decide)⟩,
          recipe.hasFiniteFloats_toJson.canonical⟩
      · exact isReadable_obj_iff.mp hreadable field hfield
    obtain ⟨f, hf, hholds'⟩ := exists_holds_fileText
      (isCanonical_insertField hcanonical (isCanonical_canonical _) _) hreadable'
    rw [save, set_file hholds] at h
    cases h
    refine ⟨f, hf, fun _ hmemory => (by cases hmemory), fun key => ⟨lookup key entries, ?_, ?_⟩⟩
    · rw [get_file hholds]
      rfl
    · rw [get_file hholds']
      simp only [get, Store.entries, Except.map, lookup_mapFloats, lookup_insertField]

/-- A recipe is loaded from its record, with the places of the clicks that are in the record. -/
theorem load_of_get (hf : KeepsFinite f) (hfinite : recipe.IsFinite) {name : String}
    (hget : s.get (Recipe.keyFor name) = .ok (some (recipe.toJson.canonical.mapFloats f))) :
    s.load name = .ok (some (recipe.mapFloats f)) := by
  rw [Store.load, hget]
  simp only [bind, Except.bind, run_decoder_mapFloats hf hfinite]
  rfl

/-- The recipe that was saved last under the key of the name is loaded, if any, maybe with other
places of its clicks. -/
theorem KeepsSaves.load (h : KeepsSaves saves s) (name : String)
    (hfinite : ∀ recipe, latest? (Recipe.keyFor name) saves = some recipe → recipe.IsFinite) :
    ∃ f, s.load name = .ok ((latest? (Recipe.keyFor name) saves).map (Recipe.mapFloats f)) := by
  obtain ⟨entries, hentries, h⟩ :
      ∃ entries, s.entries = .ok entries ∧ HoldsSaves saves entries := by
    cases h with
    | memory h => exact ⟨_, rfl, h⟩
    | file hfile h => exact ⟨_, readFile_eq_ok_iff.mpr hfile, h⟩
  have hlatest := h.latest (Recipe.keyFor name)
  have hget : s.get (Recipe.keyFor name) = .ok (lookup (Recipe.keyFor name) entries) := by
    rw [get, hentries, Except.map]
  generalize latest? (Recipe.keyFor name) saves = latest at hlatest hfinite ⊢
  generalize lookup (Recipe.keyFor name) entries = value at hlatest hget
  cases hlatest with
  | none =>
    refine ⟨id, ?_⟩
    rw [Store.load, hget]
    rfl
  | some hsaved =>
    obtain ⟨f, hf, rfl⟩ := hsaved
    exact ⟨f, load_of_get hf (hfinite _ rfl) hget⟩

end Store

end PageScript
