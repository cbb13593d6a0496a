import PageScript.Proofs.Command.Record
import PageScript.Report

/-!
# Results read back from their records

What steps came to, log entries and outputs of runs are read back from their records. A free value
in a result has to be canonical, because a free value is read as its canonical form.

* `StepResult.recovers_toJson`, `LogEntry.recovers_toJson`, `RunOutput.recovers_toJson` — a result,
  an entry and an output are recovered from their records;
* `RunOutput.decode_single`, `RunOutput.decode_many` — one result is never taken for many.
-/

namespace PageScript

open Json Record

namespace StepResult

/-- The free value of a result is canonical. -/
def IsCanonical : StepResult → Prop
  | .ok value => value.IsCanonical
  | .error _ => True

variable {result : StepResult}

/-- A canonical result is read back from its record. -/
theorem recovers_toJson (h : result.IsCanonical) : decoder.Recovers result.toJson result := by
  cases result with
  | ok value => exact ((recovers_free h).map ok).variant rfl
  | error e => exact ((recovers_text e).map error).variant rfl

/-- The canonical record of a canonical result is one of its arrangements. -/
theorem arranged_canonical_toJson (h : result.IsCanonical) :
    Arranged result.toJson result.toJson.canonical := by
  cases result with
  | ok value =>
    exact arranged_canonical_obj (List.nodup_singleton _)
      (List.forall_mem_singleton.mpr (Json.IsCanonical.arranged_canonical h))
  | error e =>
    exact arranged_canonical_obj (List.nodup_singleton _)
      (List.forall_mem_singleton.mpr (.str e))

/-- The free value of a result is carried by a text without loss. -/
def IsPortable (levels : Nat) : StepResult → Prop
  | .ok value => value.IsPortable levels
  | .error _ => True

/-- The record of a result is one level deeper. -/
theorem isPortable_toJson {d : Nat} (h : result.IsPortable d) :
    result.toJson.IsPortable (d + 1) := by
  cases result with
  | ok value => exact isPortable_obj_iff.mpr (List.forall_mem_singleton.mpr h)
  | error e => exact isPortable_obj_iff.mpr (List.forall_mem_singleton.mpr (isPortable_str e))

/-- An array is no result. -/
theorem exists_decode_arr_eq_error (items : List Json) :
    ∃ e, decoder .buffered (.arr items) = .error e :=
  ⟨_, rfl⟩

end StepResult

namespace LogEntry

variable {e : LogEntry}

/-- An entry with a canonical result is read back from its record. -/
theorem recovers_toJson (h : e.result.IsCanonical) : decoder.Recovers e.toJson e :=
  recovers_record_two (by decide) e.command.recovers_toJson (StepResult.recovers_toJson h)

/-- The canonical record of an entry is one of its arrangements. -/
theorem arranged_canonical_toJson (h : e.result.IsCanonical) :
    Arranged e.toJson e.toJson.canonical := by
  refine arranged_canonical_obj (by simp) ?_
  rw [List.forall_mem_cons, List.forall_mem_singleton]
  exact ⟨e.command.arranged_canonical_toJson, StepResult.arranged_canonical_toJson h⟩

/-- The record of an entry is two levels deeper than its result. -/
theorem isPortable_toJson {d : Nat} (h : e.result.IsPortable d) : e.toJson.IsPortable (d + 2) := by
  rw [LogEntry.toJson, isPortable_obj_iff, List.forall_mem_cons, List.forall_mem_singleton]
  exact ⟨e.command.isPortable_toJson.mono (Nat.le_add_left 1 d), StepResult.isPortable_toJson h⟩

end LogEntry

namespace RunOutput

/-- The free values of the results of a run are canonical. -/
def IsCanonical : RunOutput → Prop
  | .single result => result.IsCanonical
  | .many results => ∀ result ∈ results, result.IsCanonical

variable {output : RunOutput} {j : Json} {result : StepResult} {results : List StepResult}

/-- A canonical output is read back from its record. -/
theorem recovers_toJson (h : output.IsCanonical) : decoder.Recovers output.toJson output := by
  cases output with
  | single result => exact ((StepResult.recovers_toJson h).map single).either_first "RunOutput"
  | many results =>
    have hlist : (list StepResult.decoder).Recovers (.arr (results.map StepResult.toJson)) results :=
      recovers_list fun result hresult => StepResult.recovers_toJson (h result hresult)
    refine (hlist.map many).either_second (fun j' harranged => ?_) "RunOutput"
    obtain ⟨items, rfl, -⟩ := harranged.exists_eq_arr
    exact ⟨_, rfl⟩

/-- The canonical record of a canonical output is one of its arrangements. -/
theorem arranged_canonical_toJson (h : output.IsCanonical) :
    Arranged output.toJson output.toJson.canonical := by
  cases output with
  | single result => exact StepResult.arranged_canonical_toJson h
  | many results =>
    exact arranged_canonical_arr (List.forall_mem_map.mpr fun result hresult =>
      StepResult.arranged_canonical_toJson (h result hresult))

/-- What is read as one result is no array. -/
theorem decode_single (h : decoder.run j = .ok (.single result)) : ∀ items, j ≠ .arr items := by
  rintro items rfl
  simp only [Decoder.run, decoder, either_eq_ok_iff, map_eq_ok_iff] at h
  rcases h with ⟨_, hread, -⟩ | ⟨-, _, -, hmany⟩
  · obtain ⟨e, he⟩ := StepResult.exists_decode_arr_eq_error items
    rw [he] at hread
    cases hread
  · cases hmany

/-- What is read as many results is an array. -/
theorem decode_many (h : decoder.run j = .ok (.many results)) : ∃ items, j = .arr items := by
  simp only [Decoder.run, decoder, either_eq_ok_iff, map_eq_ok_iff] at h
  rcases h with ⟨_, -, hsingle⟩ | ⟨-, _, hread, -⟩
  · cases hsingle
  · cases j with
    | arr items => exact ⟨items, rfl⟩
    | _ => cases hread

end RunOutput

/-- Whatever is kept of a run is read back as it was. A command is read from its record, from the
text of its record, and from its record where a line or a record is expected; a result, a log entry
and an output are read from their records, whatever free values are in them, and an entry also from
the text of its record. A line is never taken for a record and one result never for many, nor the
other way round. -/
theorem records_read_back :
    (∀ c : Command, Command.decoder.ReadsBack c.toJson c ∧
        CommandInput.decoder.ReadsBack c.toJson (.structured c) ∧
        (∀ j, j = c.toJson.canonical ∨ Arranged c.toJson j → Command.ofValue j = .ok c) ∧
        Command.decoder.ofText c.toJson.compact = .ok c) ∧
      (∀ result : StepResult, result.IsCanonical →
        StepResult.decoder.ReadsBack result.toJson result) ∧
      (∀ e : LogEntry, e.result.IsCanonical → LogEntry.decoder.ReadsBack e.toJson e ∧
        (e.result.IsPortable (maxDepth - 2) → LogEntry.decoder.ofText e.toJson.compact = .ok e)) ∧
      (∀ output : RunOutput, output.IsCanonical →
        RunOutput.decoder.ReadsBack output.toJson output) ∧
      (∀ j line, CommandInput.decoder.run j = .ok (.text line) ↔ j = .str line) ∧
      (∀ j result, RunOutput.decoder.run j = .ok (.single result) → ∀ items, j ≠ .arr items) ∧
      ∀ j results, RunOutput.decoder.run j = .ok (.many results) → ∃ items, j = .arr items := by
  refine ⟨fun c => ⟨?_, ?_, fun j hj => ?_, ?_⟩, fun result h => ?_,
    fun e h => ⟨?_, fun hportable => ?_⟩, fun output h => ?_, fun j line => ?_, fun j result h => ?_,
    fun j results h => ?_⟩
  · exact c.recovers_toJson.readsBack c.arranged_canonical_toJson
  · exact (CommandInput.recovers_toJson (.structured c)).readsBack c.arranged_canonical_toJson
  · rcases hj with rfl | hj
    · exact Command.ofValue_eq c.arranged_canonical_toJson
    · exact Command.ofValue_eq hj
  · exact Decoder.ofText_compact (c.isPortable_toJson.mono (by decide))
      (c.recovers_toJson .direct _ (arranged_refl _))
  · exact (StepResult.recovers_toJson h).readsBack (StepResult.arranged_canonical_toJson h)
  · exact (LogEntry.recovers_toJson h).readsBack (LogEntry.arranged_canonical_toJson h)
  · exact Decoder.ofText_compact (LogEntry.isPortable_toJson hportable)
      (LogEntry.recovers_toJson h .direct _ (arranged_refl _))
  · exact (RunOutput.recovers_toJson h).readsBack (RunOutput.arranged_canonical_toJson h)
  -- An input is a line just if it is a text, and an output has many results just if it is an array.
  · exact CommandInput.decode_text_iff
  · exact RunOutput.decode_single h
  · exact RunOutput.decode_many h

/-- A free value may have the keys of a result itself. -/
theorem records_read_back_of_keys :
    let value := Json.obj [("error", .str "none"), ("ok", .arr [.int (-1), .obj []])]
    let e : LogEntry := ⟨.scroll none (some 5) none, .ok value⟩
    value.IsCanonical ∧ value.IsPortable (maxDepth - 2) ∧
      StepResult.decoder.ReadsBack (StepResult.ok value).toJson (.ok value) ∧
      LogEntry.decoder.ReadsBack e.toJson e ∧ LogEntry.decoder.ofText e.toJson.compact = .ok e ∧
      RunOutput.decoder.ReadsBack (RunOutput.many [.ok value]).toJson (.many [.ok value]) := by
  intro value e
  have hsorted : "error" < "ok" := by decide
  -- The keys of the value are those of a result, in order.
  have hcanonical : value.IsCanonical := by
    refine isCanonical_obj_iff.mpr ⟨List.pairwise_pair.mpr hsorted, ?_⟩
    simp [isCanonical_obj_iff, isCanonical_arr_iff, Sorted]
  have hportable : value.IsPortable (maxDepth - 2) := by
    have hword : IsWord (-1) := by decide
    simp [value, maxDepth, hword]
  obtain ⟨-, hresult, hentry, houtput, -⟩ := records_read_back
  exact ⟨hcanonical, hportable, hresult _ hcanonical, (hentry e hcanonical).1,
    (hentry e hcanonical).2 hportable, houtput _ (List.forall_mem_singleton.mpr hcanonical)⟩

end PageScript
