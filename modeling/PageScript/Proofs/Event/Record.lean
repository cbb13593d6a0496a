import PageScript.Proofs.Record.Recovers
import PageScript.Recipe

/-!
# Events and recipes read back from their records

An event is the three entries of its kind, its details and its time in one object, and is read back
from them in whatever order they stand. Only a click at a place that is no finite number is not,
because such a coordinate is written as `null`.

* `Event.recovers_toJson`, `Event.arranged_canonical_toJson` — events;
* `Recipe.recovers_toJson`, `Recipe.arranged_canonical_toJson` — recordings of events.
-/

namespace PageScript

open Json Record

/-! ### Details -/

/-- The kind of a mutation is read back from its word. -/
theorem MutationKind.recovers_word (kind : MutationKind) :
    (oneOf words).Recovers (.str kind.word) kind :=
  recovers_oneOf (by cases kind <;> rfl)

namespace DomMutation

variable (m : DomMutation)

/-- A mutation is read back from its record. -/
theorem recovers_toJson : decoder.Recovers m.toJson m := by
  apply Fields.Recovers.record_fieldIfPresent (mk m.mutation m.target m.tag) m.changed
  · exact (((recovers_field (.head _) m.mutation.recovers_word).map DomMutation.mk).seq
      (recovers_field (.tail _ (.head _)) (recovers_text m.target))).seq
      (recovers_field (.tail _ (.tail _ (.head _))) (recovers_text m.tag))
  · simp

/-- The canonical record of a mutation is one of its arrangements. -/
theorem arranged_canonical_toJson : Arranged m.toJson m.toJson.canonical :=
  arranged_canonical_append_fieldIfPresent (by simp) (by simp)

end DomMutation

namespace ElementSummary

variable (e : ElementSummary)

/-- An element is read back from its record. -/
theorem recovers_toJson : decoder.Recovers e.toJson e := by
  apply Fields.Recovers.record_fieldIfPresent (mk e.selector e.tag) e.label
  · exact ((recovers_field (.head _) (recovers_text e.selector)).map ElementSummary.mk).seq
      (recovers_field (.tail _ (.head _)) (recovers_text e.tag))
  · simp

/-- The canonical record of an element is one of its arrangements. -/
theorem arranged_canonical_toJson : Arranged e.toJson e.toJson.canonical :=
  arranged_canonical_append_fieldIfPresent (by simp) (by simp)

end ElementSummary

namespace KeyInfo

variable (k : KeyInfo)

/-- The modifier keys are read back from their record. -/
theorem recovers_toJson : decoder.Recovers k.toJson k := by
  apply Fields.Recovers.record
  · exact ((((((recovers_field (by simp) (recovers_text k.key)).map KeyInfo.mk).seq
      (recovers_field (by simp) (recovers_text k.code))).seq
      (recovers_field (by simp) (recovers_truth k.altHeld))).seq
      (recovers_field (by simp) (recovers_truth k.ctrlHeld))).seq
      (recovers_field (by simp) (recovers_truth k.metaHeld))).seq
      (recovers_field (by simp) (recovers_truth k.shiftHeld))
  · simp

/-- The canonical record of the modifier keys is one of its arrangements. -/
theorem arranged_canonical_toJson : Arranged k.toJson k.toJson.canonical :=
  arranged_canonical_obj (by simp) (by simp)

end KeyInfo

namespace ClickInfo

/-- A click at a place. -/
def IsFinite (c : ClickInfo) : Prop :=
  c.x.isFinite ∧ c.y.isFinite

variable {c : ClickInfo}

/-- A finite number is read back, whether it is written as an integer or not. -/
theorem recovers_ofNumber {x : Binary64} (h : x.isFinite) :
    Decoder.Recovers number (Json.ofNumber x) x := by
  rw [Json.ofNumber, if_pos h]
  exact recovers_number x

/-- A click at finite coordinates is read back from its record. -/
theorem recovers_toJson (h : c.IsFinite) : decoder.Recovers c.toJson c := by
  apply Fields.Recovers.record_fieldIfPresent (mk c.x c.y c.button c.selector) c.label
  · exact ((((recovers_field (by simp) (recovers_ofNumber h.1)).map ClickInfo.mk).seq
      (recovers_field (by simp) (recovers_ofNumber h.2))).seq
      (recovers_field (by simp) (recovers_word16 c.button))).seq
      (recovers_field (by simp) (recovers_text c.selector))
  · simp

/-- The canonical record of a click is one of its arrangements. -/
theorem arranged_canonical_toJson (c : ClickInfo) : Arranged c.toJson c.toJson.canonical :=
  arranged_canonical_append_fieldIfPresent (by simp) (by simp)

end ClickInfo

/-! ### Events -/

namespace EventDetails

/-- What happened, if it is a click, is a click at a place. -/
def IsFinite : EventDetails → Prop
  | .click c => c.IsFinite
  | _ => True

variable {d : EventDetails}

/-- The kind of an event names the way to read its content. -/
theorem exists_choose_recovers (h : d.IsFinite) :
    ∃ reader, choose (variants.map fun choice => (choice.1, Variant.plain choice.2)) d.kind =
      .ok (.plain reader) ∧ reader.Recovers d.content d := by
  cases d with
  | dom m => exact ⟨_, rfl, m.recovers_toJson.map dom⟩
  | location url => exact ⟨_, rfl, (recovers_text url).map location⟩
  | focus gained => exact ⟨_, rfl, (recovers_truth gained).map focus⟩
  | elementFocus e => exact ⟨_, rfl, e.recovers_toJson.map elementFocus⟩
  | keydown k => exact ⟨_, rfl, k.recovers_toJson.map keydown⟩
  | click c => exact ⟨_, rfl, (ClickInfo.recovers_toJson h).map click⟩

/-- The details of an event are read back from their record. -/
theorem recovers_toJson (h : d.IsFinite) : decoder.Recovers d.toJson d := by
  obtain ⟨reader, hkind, hreader⟩ := exists_choose_recovers h
  exact hreader.adjacent hkind (by decide) "EventDetails"

/-- The canonical content of an event is one of its arrangements. -/
private theorem arranged_canonical_content (d : EventDetails) :
    Arranged d.content d.content.canonical := by
  cases d with
  | dom m => exact m.arranged_canonical_toJson
  | location url => exact .str url
  | focus gained => exact .bool gained
  | elementFocus e => exact e.arranged_canonical_toJson
  | keydown k => exact k.arranged_canonical_toJson
  | click c => exact c.arranged_canonical_toJson

end EventDetails

namespace Event

/-- An event that is no click, or a click at a place. -/
def IsFinite (e : Event) : Prop :=
  e.details.IsFinite

variable {e : Event}

/-- A finite event is read back from its record. -/
theorem recovers_toJson (h : e.IsFinite) : decoder.Recovers e.toJson e := by
  intro r j' harranged
  obtain ⟨entries, rfl, harranged⟩ := harranged.exists_eq_obj
  have hnodup : (entries.map Prod.fst).Nodup :=
    harranged.map_fst_perm.nodup_iff.mpr (by simp [EventDetails.fields])
  have htime : (required "timestamp" word64).ofEntries r 0 entries = .read e.timestamp :=
    recovers_field (List.mem_append_right _ (.head _)) (recovers_word64 e.timestamp) r 0 entries
      hnodup harranged
  -- The time is taken out, and what happened is read from the other two entries.
  have hothers : EventDetails.decoder .buffered
      (.obj (entries.filter fun entry => entry.1 ≠ "timestamp")) = .ok e.details := by
    refine EventDetails.recovers_toJson h .buffered _ ?_
    have hfields : (e.details.fields ++ [("timestamp", Json.int e.timestamp.toNat)]).filter
        (fun field => field.1 ≠ "timestamp") = e.details.fields := by
      simp [EventDetails.fields]
    have hfilter := harranged.filter fun key => key ≠ "timestamp"
    rwa [hfields] at hfilter
  rw [decoder]
  simp only [htime, hothers]
  rfl

/-- The canonical record of an event is one of its arrangements. -/
theorem arranged_canonical_toJson (e : Event) : Arranged e.toJson e.toJson.canonical :=
  arranged_canonical_obj (by simp [EventDetails.fields])
    (by simp [EventDetails.fields, e.details.arranged_canonical_content])

end Event

/-! ### Recipes -/

namespace Recipe

/-- Every click of a recording is at a place. -/
def IsFinite (recipe : Recipe) : Prop :=
  ∀ e ∈ recipe.events, e.IsFinite

/-- A recipe of finite events is read back from its record. -/
theorem recovers_toJson {recipe : Recipe} (h : recipe.IsFinite) :
    decoder.Recovers recipe.toJson recipe :=
  recovers_record_three (by decide) (recovers_text recipe.name) (recovers_word64 recipe.savedAt)
    (recovers_list fun e he => Event.recovers_toJson (h e he))

/-- The canonical record of a recipe is one of its arrangements. -/
theorem arranged_canonical_toJson (recipe : Recipe) :
    Arranged recipe.toJson recipe.toJson.canonical := by
  have hevents : Arranged (.arr (recipe.events.map Event.toJson))
      (Json.arr (recipe.events.map Event.toJson)).canonical :=
    arranged_canonical_arr (List.forall_mem_map.mpr fun e _ => e.arranged_canonical_toJson)
  exact arranged_canonical_obj (by simp) (by simp [hevents])

end Recipe

end PageScript
