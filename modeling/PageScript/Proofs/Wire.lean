import PageScript.Proofs.Event.Record
import PageScript.Proofs.Page.Request
import PageScript.Wire

/-!
# Messages read back from their records

Whatever travels on the socket, and whatever travels on the channel of toasts, is read back from its
record. The messages of toasts are the same on both.

* `BridgeMessage.recovers_toJson`, `WireMessage.recovers_toJson` — messages are recovered from
  their records;
* `WireMessage.ofText_ofBridge` — messages of toasts are recovered from their texts;
* `WireMessage.toJson_ofBridge`, `WireMessage.decode_ofBridge_iff` — the two kinds of messages have
  their toasts in common, when they are written and when they are read.
-/

namespace PageScript

open Json Record

/-! ### Toasts -/

/-- The options of a toast are read back from their record. -/
theorem ToastOptions.recovers_toJson (o : ToastOptions) : decoder.Recovers o.toJson o :=
  recovers_record_two (by decide) (recovers_text o.continueLabel) (recovers_text o.cancelLabel)

/-- The canonical record of the options of a toast is one of its arrangements. -/
theorem ToastOptions.arranged_canonical_toJson (o : ToastOptions) :
    Arranged o.toJson o.toJson.canonical :=
  arranged_canonical_obj (by simp) (by simp)

/-- The action of a toast is read back from its word. -/
theorem ToastAction.recovers_word (action : ToastAction) :
    decoder.Recovers (.str action.word) action := by
  have hword : ofWord action.word = action := by cases action <;> rfl
  have hread := (recovers_text action.word).map ofWord
  rwa [hword] at hread

/-- A request for a toast is read back from its fields. -/
theorem ToastRequest.recovers_fields (t : ToastRequest) : decoder.Recovers (.obj t.fields) t :=
  recovers_record_three (by decide) (recovers_text t.id) (recovers_text t.message)
    t.options.recovers_toJson

/-- A response to a toast is read back from its fields. -/
theorem ToastResponse.recovers_fields (t : ToastResponse) : decoder.Recovers (.obj t.fields) t :=
  recovers_record_two (by decide) (recovers_text t.id) t.action.recovers_word

/-- The record of a request for a toast has each key once. -/
theorem ToastRequest.nodup_keys (t : ToastRequest) : ("type" :: t.fields.map Prod.fst).Nodup := by
  simp [fields]

/-- The record of a response to a toast has each key once. -/
theorem ToastResponse.nodup_keys (t : ToastResponse) :
    ("type" :: t.fields.map Prod.fst).Nodup := by
  simp [fields]

/-- Every message of the toast channel is recovered from its record. -/
theorem BridgeMessage.recovers_toJson (b : BridgeMessage) : decoder.Recovers b.toJson b := by
  cases b with
  | request t => exact (t.recovers_fields.map request).tagged rfl t.nodup_keys "BridgeMessage"
  | response t => exact (t.recovers_fields.map response).tagged rfl t.nodup_keys "BridgeMessage"

/-! ### Messages on the socket -/

namespace WireMessage

/-- The free value of a response is canonical, and an observed click is at a place. -/
def IsRegular : WireMessage → Prop
  | .pageResponse _ _ value _ => value.IsCanonical
  | .observed event => event.IsFinite
  | _ => True

variable {m : WireMessage} {j : Json}

/-- What the bridge sends is regular. -/
theorem isRegular_ofBridge (b : BridgeMessage) : (ofBridge b).IsRegular := by
  cases b <;> trivial

/-- The type of a message names the way to read the fields of the message. -/
theorem exists_choose_recovers (h : m.IsRegular) :
    ∃ d, choose variants m.parts.1 = .ok d ∧ d.Recovers (.obj m.parts.2) m := by
  cases m with
  | pageRequest id request =>
    exact ⟨_, rfl, recovers_record_two (by decide) (recovers_word64 id) request.recovers_toJson⟩
  | pageResponse id ok value error =>
    refine ⟨_, rfl, Fields.Recovers.record_fieldIfPresent (pageResponse id ok value) error ?_ ?_⟩
    · exact (((recovers_field (by simp) (recovers_word64 id)).map pageResponse).seq
        (recovers_field (by simp) (recovers_truth ok))).seq
        (recovers_field (by simp) (recovers_free h))
    · simp
  | observed event => exact ⟨_, rfl, recovers_record_one (Event.recovers_toJson h)⟩
  | toastRequest t => exact ⟨_, rfl, t.recovers_fields.map toastRequest⟩
  | toastResponse t => exact ⟨_, rfl, t.recovers_fields.map toastResponse⟩

/-- The record of a message has each key once. -/
theorem nodup_keys (m : WireMessage) : ("type" :: m.parts.2.map Prod.fst).Nodup := by
  cases m with
  | pageResponse id ok value error => cases error <;> simp [parts, fieldIfPresent]
  | toastRequest t => exact t.nodup_keys
  | toastResponse t => exact t.nodup_keys
  | _ => simp [parts]

/-- Every message is recovered from its record. -/
theorem recovers_toJson (h : m.IsRegular) : decoder.Recovers m.toJson m := by
  obtain ⟨d, htype, hd⟩ := exists_choose_recovers h
  exact hd.tagged htype m.nodup_keys "WireMessage"

/-- A message about a toast is read from its text. -/
theorem ofText_ofBridge (b : BridgeMessage) :
    decoder.ofText (ofBridge b).toJson.compact = .ok (ofBridge b) := by
  have hread : decoder.run (ofBridge b).toJson = .ok (ofBridge b) :=
    recovers_toJson (isRegular_ofBridge b) .direct _ (arranged_refl _)
  have hportable : (ofBridge b).toJson.IsPortable 2 := by
    cases b <;>
      simp [ofBridge, toJson, parts, ToastRequest.fields, ToastResponse.fields, ToastOptions.toJson]
  exact Decoder.ofText_compact (hportable.mono (by decide)) hread

/-- The record of a message in canonical order has the same entries. -/
theorem arranged_canonical_toJson (h : m.IsRegular) : Arranged m.toJson m.toJson.canonical := by
  have hfields : ∀ field ∈ m.parts.2, Arranged field.2 field.2.canonical := by
    cases m with
    | pageRequest id request => simp [parts, request.arranged_canonical_toJson]
    | pageResponse id ok value error =>
      have hvalue : value.IsCanonical := h
      cases error <;> simp [parts, fieldIfPresent, hvalue]
    | observed event => simp [parts, event.arranged_canonical_toJson]
    | toastRequest t => simp [parts, ToastRequest.fields, t.options.arranged_canonical_toJson]
    | toastResponse t => simp [parts, ToastResponse.fields]
  exact arranged_canonical_obj m.nodup_keys (List.forall_mem_cons.mpr ⟨.str _, hfields⟩)

/-! ### Toasts on the socket -/

/-- A message of the toast channel has one record, on whichever way it travels. -/
theorem toJson_ofBridge (b : BridgeMessage) : (ofBridge b).toJson = b.toJson := by
  cases b <;> rfl

/-- A message is none of the toast channel. -/
def IsOther (m : WireMessage) : Prop :=
  ∀ b, m ≠ ofBridge b

/-- A request of the page is not for the bridge. -/
private theorem isOther_pageRequest (id : UInt64) (request : PageRequest) :
    (pageRequest id request).IsOther := by
  rintro (_ | _) ⟨⟩

/-- A response of the page is not for the bridge. -/
private theorem isOther_pageResponse (id : UInt64) (ok : Bool) (value : Json)
    (error : Option String) :
    (pageResponse id ok value error).IsOther := by
  rintro (_ | _) ⟨⟩

/-- An observed event is not for the bridge. -/
private theorem isOther_observed (event : Event) : (observed event).IsOther := by
  rintro (_ | _) ⟨⟩

/-- A value is read as a message of the toast channel on either way. -/
theorem decode_ofBridge_iff {b : BridgeMessage} :
    decoder.run j = .ok (ofBridge b) ↔ BridgeMessage.decoder.run j = .ok b := by
  rw [decoder, BridgeMessage.decoder, run_tagged_eq_ok_iff, run_tagged_eq_ok_iff]
  constructor
  · rintro ⟨kind, rest, d, htag, hkind, hd⟩
    rw [choose_eq_ok_iff (by decide)] at hkind
    simp only [variants, List.mem_cons, List.not_mem_nil, or_false, Prod.mk.injEq] at hkind
    -- The other three types of messages are read as something else.
    rcases hkind with ⟨rfl, rfl⟩ | ⟨rfl, rfl⟩ | ⟨rfl, rfl⟩ | ⟨rfl, rfl⟩ | ⟨rfl, rfl⟩
    · exact absurd rfl ((yields_map isOther_pageRequest).seq.of_record hd b)
    · exact absurd rfl ((yields_map isOther_pageResponse).seq.seq.seq.of_record hd b)
    · exact absurd rfl ((yields_map isOther_observed).of_record hd b)
    · obtain ⟨t, ht, hb⟩ := map_eq_ok_iff.mp hd
      refine ⟨_, rest, _, htag, rfl, map_eq_ok_iff.mpr ⟨t, ht, ?_⟩⟩
      cases b <;> cases hb
      rfl
    · obtain ⟨t, ht, hb⟩ := map_eq_ok_iff.mp hd
      refine ⟨_, rest, _, htag, rfl, map_eq_ok_iff.mpr ⟨t, ht, ?_⟩⟩
      cases b <;> cases hb
      rfl
  · rintro ⟨kind, rest, d, htag, hkind, hd⟩
    rw [choose_eq_ok_iff (by decide)] at hkind
    simp only [List.mem_cons, List.not_mem_nil, or_false, Prod.mk.injEq] at hkind
    rcases hkind with ⟨rfl, rfl⟩ | ⟨rfl, rfl⟩
    · obtain ⟨t, ht, rfl⟩ := map_eq_ok_iff.mp hd
      exact ⟨_, rest, _, htag, rfl, map_eq_ok_iff.mpr ⟨t, ht, rfl⟩⟩
    · obtain ⟨t, ht, rfl⟩ := map_eq_ok_iff.mp hd
      exact ⟨_, rest, _, htag, rfl, map_eq_ok_iff.mpr ⟨t, ht, rfl⟩⟩

end WireMessage

/-- Whatever is sent between a run and the places where it is watched, and whatever is recorded, is
read back from its record as it was, whatever free value a response carries, as long as clicks are at
places. A message of the toast channel has one record on both ways, and a value is read as that
message on the one exactly if it is on the other. -/
theorem messages_read_back :
    (∀ m : WireMessage, m.IsRegular → WireMessage.decoder.ReadsBack m.toJson m) ∧
      (∀ b : BridgeMessage, BridgeMessage.decoder.ReadsBack b.toJson b) ∧
      (∀ e : Event, e.IsFinite → Event.decoder.ReadsBack e.toJson e) ∧
      (∀ recipe : Recipe, recipe.IsFinite → Recipe.decoder.ReadsBack recipe.toJson recipe) ∧
      (∀ b : BridgeMessage, (WireMessage.ofBridge b).toJson = b.toJson) ∧
      ∀ (b : BridgeMessage) (j : Json),
        WireMessage.decoder.run j = .ok (.ofBridge b) ↔ BridgeMessage.decoder.run j = .ok b := by
  refine ⟨fun m h => ?_, fun b => ?_, fun e h => ?_, fun recipe h => ?_,
    WireMessage.toJson_ofBridge, fun b j => WireMessage.decode_ofBridge_iff⟩
  · exact (WireMessage.recovers_toJson h).readsBack (WireMessage.arranged_canonical_toJson h)
  · have hcanonical : Arranged b.toJson b.toJson.canonical := by
      rw [← WireMessage.toJson_ofBridge]
      exact WireMessage.arranged_canonical_toJson (WireMessage.isRegular_ofBridge b)
    exact b.recovers_toJson.readsBack hcanonical
  · exact (Event.recovers_toJson h).readsBack e.arranged_canonical_toJson
  · exact (Recipe.recovers_toJson h).readsBack recipe.arranged_canonical_toJson

/-- The free value of a response may have the keys of messages. -/
theorem messages_read_back_of_keys :
    let value := Json.obj [("id", .null), ("type", .str "PAGE_REQUEST")]
    let m := WireMessage.pageResponse 3 true value none
    let e : Event := ⟨.click ⟨⟨0x3FF8000000000000⟩, ⟨0⟩, 0, "#save", none⟩, 1700000000000⟩
    let recipe : Recipe := ⟨"Save", 1700000000001, [e]⟩
    m.IsRegular ∧ e.IsFinite ∧ recipe.IsFinite ∧ WireMessage.decoder.ReadsBack m.toJson m ∧
      Event.decoder.ReadsBack e.toJson e ∧ Recipe.decoder.ReadsBack recipe.toJson recipe := by
  intro value m e recipe
  have hsorted : "id" < "type" := by decide
  have hregular : m.IsRegular :=
    isCanonical_obj_iff.mpr ⟨List.pairwise_pair.mpr hsorted, by simp⟩
  have hfinite : e.IsFinite := ⟨by decide, by decide⟩
  have hrecipe : recipe.IsFinite := List.forall_mem_singleton.mpr hfinite
  obtain ⟨hmessage, -, hevent, hrecord, -⟩ := messages_read_back
  exact ⟨hregular, hfinite, hrecipe, hmessage m hregular, hevent e hfinite, hrecord recipe hrecipe⟩

end PageScript
