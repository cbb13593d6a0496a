import PageScript.Page.Request
import PageScript.Proofs.Command.Record

/-!
# Page requests read back from their records

* `PageRequest.recovers_toJson` — every request is recovered from its record;
* `PageRequest.arranged_canonical_toJson` — the record in canonical order is an arrangement of it.
-/

namespace PageScript

open Json Record

namespace DialogPolicy

variable (p : DialogPolicy)

/-- A request of the page is read back from its record. -/
theorem recovers_toJson : decoder.Recovers p.toJson p := by
  apply Fields.Recovers.record_fieldIfPresent (mk p.action) p.promptText
  · exact (recovers_field (.head _) (Command.recovers_dialogAction p.action)).map DialogPolicy.mk
  · simp

/-- The canonical record of a request of the page is one of its arrangements. -/
theorem arranged_canonical_toJson : Arranged p.toJson p.toJson.canonical :=
  arranged_canonical_append_fieldIfPresent (by simp) (by simp)

end DialogPolicy

namespace PageRequest

/-- The name of a request names the way to read the fields of the request. -/
theorem exists_choose_recovers (request : PageRequest) :
    ∃ d, choose variants request.parts.1 = .ok d ∧ d.Recovers (.obj request.parts.2) request := by
  -- Every kind has a decoder of its own, for a record with the fields of that kind.
  cases request with
  | navigate url => exact ⟨_, rfl, recovers_record_one (recovers_text url)⟩
  | queryAll selector => exact ⟨_, rfl, recovers_record_one (recovers_text selector)⟩
  | click element => exact ⟨_, rfl, recovers_record_one (recovers_text element)⟩
  | typeText element value =>
    exact ⟨_, rfl, recovers_record_two (by decide) (recovers_text element) (recovers_text value)⟩
  | setValue element value =>
    exact ⟨_, rfl, recovers_record_two (by decide) (recovers_text element) (recovers_text value)⟩
  | focus element => exact ⟨_, rfl, recovers_record_one (recovers_text element)⟩
  | enable element => exact ⟨_, rfl, recovers_record_one (recovers_text element)⟩
  | hover element => exact ⟨_, rfl, recovers_record_one (recovers_text element)⟩
  | scrollIntoView element => exact ⟨_, rfl, recovers_record_one (recovers_text element)⟩
  | scrollTo x y =>
    exact ⟨_, rfl, recovers_record_two (by decide) (recovers_int64 x) (recovers_int64 y)⟩
  | attributeOf element name =>
    exact ⟨_, rfl, recovers_record_two (by decide) (recovers_text element) (recovers_text name)⟩
  | computedStyle element property =>
    exact ⟨_, rfl, recovers_record_two (by decide) (recovers_text element)
      (recovers_text property)⟩
  | execute script => exact ⟨_, rfl, recovers_record_one (recovers_text script)⟩
  | screenshot => exact ⟨_, rfl, recovers_noFields _⟩
  | handleDialogs policy => exact ⟨_, rfl, recovers_record_one policy.recovers_toJson⟩
  | resize width height =>
    exact ⟨_, rfl, recovers_record_two (by decide) (recovers_word32 width)
      (recovers_word32 height)⟩
  | showMessage text => exact ⟨_, rfl, recovers_record_one (recovers_text text)⟩
  | networkIdle timeout => exact ⟨_, rfl, recovers_record_one (recovers_word64 timeout)⟩
  | installListeners => exact ⟨_, rfl, recovers_noFields _⟩

variable (request : PageRequest)

/-- The record of a request has each key once. -/
theorem nodup_keys : ("op" :: request.parts.2.map Prod.fst).Nodup := by
  cases request <;> simp [parts]

/-- Every request is recovered from its record. -/
theorem recovers_toJson : decoder.Recovers request.toJson request := by
  obtain ⟨d, hname, hd⟩ := exists_choose_recovers request
  exact hd.tagged hname request.nodup_keys "PageRequest"

/-- The record of a request in canonical order has the same entries. -/
theorem arranged_canonical_toJson : Arranged request.toJson request.toJson.canonical := by
  have hfields : ∀ field ∈ request.parts.2, Arranged field.2 field.2.canonical := by
    cases request <;> simp [parts, DialogPolicy.arranged_canonical_toJson]
  exact arranged_canonical_obj request.nodup_keys
    (List.forall_mem_cons.mpr ⟨.str _, hfields⟩)

end PageRequest

end PageScript
