import PageScript.Parse
import PageScript.Proofs.Record.Recovers

/-!
# Commands read back from their records

The record of a command is read as that command again, in whatever order its entries stand. A
record is never taken for a line of text, nor a line for a record.

* `Command.recovers_toJson` — every command is recovered from its record;
* `Command.arranged_canonical_toJson` — the record in canonical order is an arrangement of it;
* `CommandInput.recovers_toJson`, `CommandInput.decode_text_iff` — what is submitted is read as the
  form it has.
-/

namespace PageScript

open Json Record

namespace Command

/-! ### Fields -/

/-- A limit is read back, whether it is there or not. -/
theorem recovers_ofMs? (ms : Option UInt64) : (optional word64).Recovers (ofMs? ms) ms := by
  cases ms with
  | none => exact recovers_optional_none
  | some ms => exact (recovers_word64 ms).optional nofun

/-- A coordinate is read back, whether it is there or not. -/
theorem recovers_ofCoordinate? (x : Option Int64) :
    (optional int64).Recovers (ofCoordinate? x) x := by
  cases x with
  | none => exact recovers_optional_none
  | some x => exact (recovers_int64 x).optional nofun

/-- The condition of a wait is read back. -/
theorem recovers_condition (condition : WaitCondition) :
    (oneOf WaitCondition.words).Recovers (.str condition.word) condition :=
  recovers_oneOf (by cases condition <;> rfl)

/-- What is done with a dialog is read back. -/
theorem recovers_dialogAction (action : DialogAction) :
    (oneOf DialogAction.words).Recovers (.str action.word) action :=
  recovers_oneOf (by cases action <;> rfl)

/-- What is done with changes is read back. -/
theorem recovers_changesAction (action : ChangesAction) :
    (oneOf ChangesAction.words).Recovers (.str action.word) action :=
  recovers_oneOf (by cases action <;> rfl)

/-- What is done with a recording is read back. -/
theorem recovers_recordAction (action : RecordAction) :
    (oneOf RecordAction.words).Recovers (.str action.word) action :=
  recovers_oneOf (by cases action <;> rfl)

/-- What is done with a recipe is read back. -/
theorem recovers_recipeAction (action : RecipeAction) :
    (oneOf RecipeAction.words).Recovers (.str action.word) action :=
  recovers_oneOf (by cases action <;> rfl)

/-- The kind of a command names the way to read the fields of the command. -/
theorem exists_choose_recovers (c : Command) :
    ∃ d, choose variants c.kind = .ok d ∧ d.Recovers (.obj c.fields) c := by
  -- Every kind has a decoder of its own, for a record with the fields of that kind.
  cases c with
  | navto url => exact ⟨_, rfl, recovers_record_one (recovers_text url)⟩
  | click selector text =>
    exact ⟨_, rfl, recovers_record_two (by decide) (recovers_text selector)
      (recovers_optional_ofText? text)⟩
  | type selector value =>
    exact ⟨_, rfl, recovers_record_two (by decide) (recovers_text selector) (recovers_text value)⟩
  | setValue selector value =>
    exact ⟨_, rfl, recovers_record_two (by decide) (recovers_text selector) (recovers_text value)⟩
  | focus selector => exact ⟨_, rfl, recovers_record_one (recovers_text selector)⟩
  | enable selector => exact ⟨_, rfl, recovers_record_one (recovers_text selector)⟩
  | hover selector => exact ⟨_, rfl, recovers_record_one (recovers_text selector)⟩
  | scroll selector x y =>
    exact ⟨_, rfl, recovers_record_three (by decide) (recovers_optional_ofText? selector)
      (recovers_ofCoordinate? x) (recovers_ofCoordinate? y)⟩
  | getAttr selector name =>
    exact ⟨_, rfl, recovers_record_two (by decide) (recovers_text selector) (recovers_text name)⟩
  | getStyle selector property =>
    exact ⟨_, rfl, recovers_record_two (by decide) (recovers_text selector)
      (recovers_text property)⟩
  | wait ms => exact ⟨_, rfl, recovers_record_one (recovers_word64 ms)⟩
  | waitForElement selector timeout =>
    exact ⟨_, rfl, recovers_record_two (by decide) (recovers_text selector)
      (recovers_ofMs? timeout)⟩
  | waitFor condition timeout =>
    exact ⟨_, rfl, recovers_record_two (by decide) (recovers_condition condition)
      (recovers_ofMs? timeout)⟩
  | exec script => exact ⟨_, rfl, recovers_record_one (recovers_text script)⟩
  | screenshot => exact ⟨_, rfl, recovers_noFields _⟩
  | dialog action promptText =>
    exact ⟨_, rfl, recovers_record_two (by decide) (recovers_dialogAction action)
      (recovers_optional_ofText? promptText)⟩
  | resize width height =>
    exact ⟨_, rfl, recovers_record_two (by decide) (recovers_word32 width)
      (recovers_word32 height)⟩
  | changes action => exact ⟨_, rfl, recovers_record_one (recovers_changesAction action)⟩
  | record action => exact ⟨_, rfl, recovers_record_one (recovers_recordAction action)⟩
  | recipe action name =>
    exact ⟨_, rfl, recovers_record_two (by decide) (recovers_recipeAction action)
      (recovers_text name)⟩
  | message text => exact ⟨_, rfl, recovers_record_one (recovers_text text)⟩
  | showToast text => exact ⟨_, rfl, recovers_record_one (recovers_text text)⟩
  | assert selector text =>
    exact ⟨_, rfl, recovers_record_two (by decide) (recovers_text selector)
      (recovers_optional_ofText? text)⟩
  | assertTextContains selector text =>
    exact ⟨_, rfl, recovers_record_two (by decide) (recovers_text selector) (recovers_text text)⟩
  | «break» => exact ⟨_, rfl, recovers_noFields _⟩

/-! ### Records -/

/-- A command has no two fields of one name. -/
theorem nodup_keys (c : Command) : ("kind" :: c.fields.map Prod.fst).Nodup := by
  cases c <;> simp [fields]

/-- Every command is recovered from its record. -/
theorem recovers_toJson (c : Command) : decoder.Recovers c.toJson c := by
  obtain ⟨d, hkind, hd⟩ := exists_choose_recovers c
  exact hd.tagged hkind c.nodup_keys "Command"

/-- No field of a command holds an object, so only their own order can differ. -/
theorem isCanonical_fields (c : Command) : ∀ field ∈ c.fields, field.2.IsCanonical := by
  cases c <;> simp [fields, ofMs?, ofCoordinate?]

/-- The record of a command in canonical order has the same entries. -/
theorem arranged_canonical_toJson (c : Command) : Arranged c.toJson c.toJson.canonical := by
  refine arranged_canonical_obj c.nodup_keys fun field hfield => ?_
  rcases List.mem_cons.mp hfield with rfl | hfield
  · exact .str _
  · exact (c.isCanonical_fields field hfield).arranged_canonical

/-- A limit may be written anywhere. -/
private theorem isPortable_ofMs? (ms : Option UInt64) : (ofMs? ms).IsPortable 0 := by
  cases ms with
  | none => exact isPortable_null
  | some ms => exact isPortable_int_iff.mpr (isWord_toNat ms.toNat_lt)

/-- A coordinate may be written anywhere. -/
private theorem isPortable_ofCoordinate? (x : Option Int64) : (ofCoordinate? x).IsPortable 0 := by
  cases x with
  | none => exact isPortable_null
  | some x => exact isPortable_int_iff.mpr (isWord_toInt x)

/-- A text may be written anywhere, whether it is there or not. -/
private theorem isPortable_ofText? (s : Option String) : (ofText? s).IsPortable 0 := by
  cases s with
  | none => exact isPortable_null
  | some s => exact isPortable_str s

/-- The record of a command is carried by a text without loss. -/
theorem isPortable_toJson (c : Command) : c.toJson.IsPortable 1 := by
  have hfields : ∀ field ∈ c.fields, field.2.IsPortable 0 := by
    cases c with
    | wait ms => simp [fields, isWord_toNat ms.toNat_lt]
    | resize width height =>
      have hwidth : IsWord width.toNat :=
        isWord_toNat (Nat.lt_trans width.toNat_lt (by decide))
      have hheight : IsWord height.toNat :=
        isWord_toNat (Nat.lt_trans height.toNat_lt (by decide))
      simp [fields, hwidth, hheight]
    | _ => simp [fields, isPortable_ofMs?, isPortable_ofCoordinate?, isPortable_ofText?]
  exact isPortable_obj_iff.mpr (List.forall_mem_cons.mpr ⟨isPortable_str _, hfields⟩)

end Command

namespace CommandInput

variable {j : Json} {line : String} {c : Command}

/-- An input is read back from its record. -/
theorem recovers_toJson (input : CommandInput) : decoder.Recovers input.toJson input := by
  cases input with
  | text line => exact ((recovers_text line).map text).either_first "CommandInput"
  | structured c =>
    refine (c.recovers_toJson.map structured).either_second (fun j' harranged => ?_) "CommandInput"
    obtain ⟨entries, rfl, -⟩ := harranged.exists_eq_obj
    exact ⟨_, rfl⟩

/-- A value is read as a line if it is a text, and only then. -/
theorem decode_text_iff : decoder.run j = .ok (.text line) ↔ j = .str line := by
  constructor
  · intro h
    simp only [Decoder.run, decoder, either_eq_ok_iff, map_eq_ok_iff, text_eq_ok_iff] at h
    rcases h with ⟨_, hj, hline⟩ | ⟨-, _, -, hrecord⟩
    · rw [hj, text.inj hline]
    · cases hrecord
  · rintro rfl
    exact recovers_toJson (.text line) .direct (.str line) (.str line)

end CommandInput

/-- The record of a command is a value that stands for the command. -/
theorem Command.ofValue_eq {c : Command} {j : Json} (h : Arranged c.toJson j) :
    ofValue j = .ok c := by
  have hread : CommandInput.decoder.run j = .ok (.structured c) :=
    CommandInput.recovers_toJson (.structured c) .direct j h
  rw [ofValue, hread]
  rfl

end PageScript
