import PageScript.Proofs.Event.Record
import PageScript.Proofs.Json.Leaves

/-!
# Copies of recordings

A recording that has been written into a text and read again is the same but for the places of its
clicks, which may come out as other finite numbers.

* `Recipe.mapFloats` — such a recording;
* `Recipe.toJson_mapFloats` — other numbers in a recording are other numbers in its record.
-/

namespace PageScript

open Json

variable {f : Binary64 → Binary64}

/-! ### Events -/

/-- A finite number that is copied is the copy of its record. -/
theorem Json.mapFloats_ofNumber (hf : KeepsFinite f) {x : Binary64} (hx : x.isFinite = true) :
    (ofNumber x).mapFloats f = ofNumber (f x) := by
  rw [ofNumber, ofNumber, if_pos (hf x hx), if_pos hx]
  rfl

/-- A text that may be absent has no floating-point number to copy. -/
theorem Json.mapFloats_fieldIfPresent (f : Binary64 → Binary64) (name : String)
    (s : Option String) :
    (fieldIfPresent name s).map (fun field => (field.1, field.2.mapFloats f)) =
      fieldIfPresent name s := by
  cases s <;> rfl

namespace ClickInfo

/-- The click with other numbers for its place. -/
def mapFloats (f : Binary64 → Binary64) (c : ClickInfo) : ClickInfo :=
  { c with x := f c.x, y := f c.y }

/-- The record of a copied click is the copy of its record. -/
theorem toJson_mapFloats (hf : KeepsFinite f) {c : ClickInfo} (h : c.IsFinite) :
    (c.mapFloats f).toJson = c.toJson.mapFloats f := by
  rw [toJson, toJson, mapFloats_obj, List.map_append, mapFloats_fieldIfPresent]
  simp [mapFloats, Json.mapFloats, mapFloats_ofNumber hf h.1, mapFloats_ofNumber hf h.2]

end ClickInfo

namespace EventDetails

/-- What happened, with other numbers for the place of a click. -/
def mapFloats (f : Binary64 → Binary64) : EventDetails → EventDetails
  | .click c => .click (c.mapFloats f)
  | d => d

/-- The content of copied details is the copy of their content. -/
theorem content_mapFloats (hf : KeepsFinite f) {d : EventDetails} (h : d.IsFinite) :
    (d.mapFloats f).content = d.content.mapFloats f := by
  cases d with
  | click c => exact ClickInfo.toJson_mapFloats hf h
  | dom m =>
    change m.toJson = m.toJson.mapFloats f
    rw [DomMutation.toJson, mapFloats_obj, List.map_append, mapFloats_fieldIfPresent]
    rfl
  | elementFocus e =>
    change e.toJson = e.toJson.mapFloats f
    rw [ElementSummary.toJson, mapFloats_obj, List.map_append, mapFloats_fieldIfPresent]
    rfl
  | _ => rfl

/-- A record holds finite numbers only, whatever the place of a click is. -/
theorem hasFiniteFloats_content (d : EventDetails) : d.content.HasFiniteFloats := by
  cases d with
  | dom m => exact hasFiniteFloats_obj_append_fieldIfPresent (by simp) _ _
  | location url => exact hasFiniteFloats_str url
  | focus gained => exact hasFiniteFloats_bool gained
  | elementFocus e => exact hasFiniteFloats_obj_append_fieldIfPresent (by simp) _ _
  | keydown k => exact hasFiniteFloats_obj_iff.mpr (by simp)
  | click c => exact hasFiniteFloats_obj_append_fieldIfPresent (by simp) _ _

end EventDetails

namespace Event

/-- The event with other numbers for the place of a click. -/
def mapFloats (f : Binary64 → Binary64) (e : Event) : Event :=
  { e with details := e.details.mapFloats f }

/-- The record of a copied event is the copy of its record. -/
theorem toJson_mapFloats (hf : KeepsFinite f) {e : Event} (h : e.IsFinite) :
    (e.mapFloats f).toJson = e.toJson.mapFloats f := by
  have hkind : (e.details.mapFloats f).kind = e.details.kind := by
    cases e.details <;> rfl
  rw [toJson, toJson, mapFloats_obj, EventDetails.fields, EventDetails.fields]
  simp [mapFloats, hkind, EventDetails.content_mapFloats hf h, Json.mapFloats]

/-- A copy of a finite event is finite. -/
theorem isFinite_mapFloats (hf : KeepsFinite f) {e : Event} (h : e.IsFinite) :
    (e.mapFloats f).IsFinite := by
  obtain ⟨details, timestamp⟩ := e
  cases details with
  | click c => exact ⟨hf _ h.1, hf _ h.2⟩
  | _ => exact trivial

/-- The record of an event has only finite numbers, since one that is not finite is written as
`null`. -/
theorem hasFiniteFloats_toJson (e : Event) : e.toJson.HasFiniteFloats := by
  rw [toJson, EventDetails.fields, hasFiniteFloats_obj_iff]
  simp [e.details.hasFiniteFloats_content]

end Event

/-! ### Recipes -/

namespace Recipe

/-- The recording with other numbers for the places of its clicks. -/
def mapFloats (f : Binary64 → Binary64) (recipe : Recipe) : Recipe :=
  { recipe with events := recipe.events.map (Event.mapFloats f) }

variable {recipe : Recipe}

/-- The record with other numbers is that of a recording with other numbers. -/
theorem toJson_mapFloats (hf : KeepsFinite f) (h : recipe.IsFinite) :
    (recipe.mapFloats f).toJson = recipe.toJson.mapFloats f := by
  have hevents : recipe.events.map (fun e => (e.mapFloats f).toJson) =
      recipe.events.map fun e => e.toJson.mapFloats f :=
    List.map_congr_left fun e he => Event.toJson_mapFloats hf (h e he)
  rw [toJson, toJson, mapFloats_obj]
  simp [mapFloats, Json.mapFloats, mapFloatsOfItems_eq, Function.comp_def, hevents]

/-- The record of a recipe has only finite numbers. -/
theorem hasFiniteFloats_toJson (recipe : Recipe) : recipe.toJson.HasFiniteFloats := by
  have hevents : (Json.arr (recipe.events.map Event.toJson)).HasFiniteFloats :=
    hasFiniteFloats_arr_iff.mpr (List.forall_mem_map.mpr fun e _ => e.hasFiniteFloats_toJson)
  rw [toJson, hasFiniteFloats_obj_iff]
  simp [hevents]

/-- A copy of a finite recipe is finite. -/
theorem isFinite_mapFloats (hf : KeepsFinite f) (h : recipe.IsFinite) :
    (recipe.mapFloats f).IsFinite :=
  List.forall_mem_map.mpr fun e he => Event.isFinite_mapFloats hf (h e he)

end Recipe

end PageScript
