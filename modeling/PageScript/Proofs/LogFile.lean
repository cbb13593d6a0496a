import PageScript.Proofs.Json.Bounds
import PageScript.Proofs.Report

/-!
# Log files

A log file gets a line for each entry of the runs that are added to it. No text of an entry has a
line feed in it, so that the lines are found again, and every line is read back as its entry as far
as the reader goes: the record around a result takes two of its levels.

* `Json.newline_not_mem_compactChars` — a text without spaces is one line;
* `RunLog.splitOn_lines` — the lines of a log file are the texts of the entries;
* `LogEntry.depth_of_ofText_eq_ok` — how deeply a result that is read can be nested;
* `RunLog.log_file_keeps_runs` — a log file and the runs kept in memory.
-/

namespace PageScript

open Json Record

/-! ### Texts on one line -/

namespace Json

/-- No digit of a hexadecimal number ends a line. -/
theorem newline_ne_hexDigit {n : Nat} (h : n < 16) : '\n' ≠ hexDigit n := by
  revert n
  decide

/-- A line feed in a string is escaped. -/
theorem newline_not_mem_escapeChar (c : Char) : '\n' ∉ escapeChar c := by
  unfold escapeChar
  split_ifs with h h h h h h h h
  · decide
  · decide
  · decide
  · decide
  · decide
  · decide
  · decide
  · simp [newline_ne_hexDigit (show c.toNat / 16 < 16 by omega),
      newline_ne_hexDigit (show c.toNat % 16 < 16 by omega)]
  · rintro hmem
    obtain rfl := List.mem_singleton.mp hmem
    exact absurd (by decide) (‹¬ ('\n' : Char).toNat = 10›)

/-- There is no line break in a text between quotes: it is escaped. -/
theorem newline_not_mem_stringChars (s : String) : '\n' ∉ stringChars s := by
  simp [stringChars, newline_not_mem_escapeChar]

/-- There is no line break in an integer. -/
theorem newline_not_mem_intChars (n : Int) : '\n' ∉ intChars n := by
  have hdigits : '\n' ∉ Nat.toDigits 10 n.natAbs := fun hmem =>
    absurd (Text.isDigit_of_mem_toDigits _ hmem) (by decide)
  rw [intChars]
  split_ifs
  · simp [hdigits]
  · exact hdigits

/-- There is no line break in the items of an array, if there is none in an item. -/
private theorem newline_not_mem_compactItems {items : List Json}
    (h : ∀ item ∈ items, '\n' ∉ item.compactChars) : '\n' ∉ compactItems items := by
  induction items with
  | nil => decide
  | cons item rest ih =>
    obtain ⟨hitem, hrest⟩ := List.forall_mem_cons.mp h
    simp [compactItems, hitem, ih hrest]

/-- There is no line break in the fields of an object, if there is none in a value. -/
private theorem newline_not_mem_compactFields {fields : List (String × Json)}
    (h : ∀ field ∈ fields, '\n' ∉ field.2.compactChars) : '\n' ∉ compactFields fields := by
  induction fields with
  | nil => decide
  | cons field rest ih =>
    obtain ⟨hfield, hrest⟩ := List.forall_mem_cons.mp h
    simp [compactFields, newline_not_mem_stringChars, hfield, ih hrest]

/-- The text of a value without spaces is one line. -/
theorem newline_not_mem_compactChars {j : Json} (h : j.HasNoFloats) : '\n' ∉ j.compactChars := by
  induction j with
  | null => decide
  | bool b => cases b <;> decide
  | int n => exact newline_not_mem_intChars n
  | float x => exact absurd (.head _) (h x)
  | str s => exact newline_not_mem_stringChars s
  -- The marks between the items and the fields are no line breaks.
  | arr items ih =>
    rw [hasNoFloats_arr_iff] at h
    have hitems : ∀ item ∈ items, '\n' ∉ item.compactChars :=
      fun item hitem => ih item hitem (h item hitem)
    cases items with
    | nil => decide
    | cons item rest =>
      obtain ⟨hitem, hrest⟩ := List.forall_mem_cons.mp hitems
      simp [compactChars, hitem, newline_not_mem_compactItems hrest]
  | obj fields ih =>
    rw [hasNoFloats_obj_iff] at h
    have hfields : ∀ field ∈ fields, '\n' ∉ field.2.compactChars :=
      fun field hfield => ih field hfield (h field hfield)
    cases fields with
    | nil => decide
    | cons field rest =>
      obtain ⟨hfield, hrest⟩ := List.forall_mem_cons.mp hfields
      simp [compactChars, newline_not_mem_stringChars, hfield, newline_not_mem_compactFields hrest]

end Json

/-! ### Lines of a log file -/

namespace RunLog

variable {run : RunLog} {runs : List RunLog}

/-- A line is the text of its entry, and the line feed that ends it. -/
theorem toList_lines_cons (e : LogEntry) (rest : RunLog) :
    (lines (e :: rest)).toList = e.toJson.compactChars ++ '\n' :: (lines rest).toList := by
  rw [lines, List.map_cons, String.join_cons, LogEntry.line, Json.compact]
  simp [lines]

/-- The lines of one run come after those of another one. -/
theorem lines_append (first second : RunLog) :
    lines (first ++ second) = lines first ++ lines second := by
  rw [lines, List.map_append, String.join_append, lines, lines]

/-- Splitting the lines of a run gives the texts of its entries, and nothing behind the last line
feed. -/
theorem splitOn_lines (h : ∀ e ∈ run, e.toJson.HasNoFloats) :
    List.splitOn '\n' run.lines.toList = (run.map fun e => e.toJson.compactChars) ++ [[]] := by
  induction run with
  | nil => rfl
  | cons e rest ih =>
    obtain ⟨he, hrest⟩ := List.forall_mem_cons.mp h
    rw [toList_lines_cons, List.splitOn_append_cons_self,
      List.splitOn_eq_singleton (newline_not_mem_compactChars he), ih hrest]
    rfl

/-- Every run can be added to a file that is a text, and its lines come after what is there. -/
theorem foldlM_appendTo_text (runs : List RunLog) (s : String) :
    runs.foldlM appendTo (.text s) = .ok (.text (s ++ lines runs.flatten)) := by
  induction runs generalizing s with
  | nil => simp [lines, pure, Except.pure]
  | cons run rest ih =>
    rw [List.foldlM_cons, List.flatten_cons, lines_append, ← String.append_assoc]
    exact ih _

/-- Every run can be added to an absent file, which holds the lines of all runs afterwards, if there
are any. -/
theorem foldlM_appendTo_absent (runs : List RunLog) :
    runs.foldlM appendTo .absent =
      .ok (if runs = [] then .absent else .text (lines runs.flatten)) := by
  cases runs with
  | nil => rfl
  | cons run rest =>
    rw [List.foldlM_cons, List.flatten_cons, lines_append, if_neg (List.cons_ne_nil run rest)]
    exact foldlM_appendTo_text rest run.lines

/-- The runs kept in memory are those that were added. -/
theorem foldl_keepIn (kept runs : List RunLog) : runs.foldl keepIn kept = kept ++ runs := by
  induction runs generalizing kept with
  | nil => exact (List.append_nil kept).symm
  | cons run rest ih => rw [List.foldl_cons, ih, keepIn, List.append_assoc, List.singleton_append]

end RunLog

/-! ### How deeply a result can be nested -/

/-- An item is less deep than its array. -/
theorem Json.depth_lt_of_mem_items {item : Json} {items : List Json} (h : item ∈ items) :
    item.depth < (Json.arr items).depth :=
  Nat.lt_succ_of_le (depthOfItems_le_iff.mp (Nat.le_refl _) item h)

/-- A value is less deep than its object. -/
theorem Json.depth_lt_of_mem_fields {field : String × Json} {fields : List (String × Json)}
    (h : field ∈ fields) : field.2.depth < (Json.obj fields).depth :=
  Nat.lt_succ_of_le (depthOfFields_le_iff.mp (Nat.le_refl _) field h)

/-- The value of a name is that of an entry. -/
theorem Record.exists_mem_of_occurrences {name : String} {entries : List (String × Json)} {k : Nat}
    {j : Json} (h : (occurrences name entries).1 = some (k, j)) :
    ∃ entry ∈ entries, entry.2 = j := by
  obtain ⟨⟨entry, index⟩, hhead, heq⟩ := Option.map_eq_some_iff.mp h
  have hmem := (List.mem_filter.mp (List.mem_of_head? hhead)).1
  exact ⟨entry, List.fst_mem_of_mem_zipIdx hmem, (Prod.mk.inj heq).2⟩

/-- The free value of a result is part of the record of the result. -/
theorem StepResult.depth_lt_of_decode {r : Reading} {j value : Json}
    (h : decoder r j = .ok (.ok value)) : value.depth < j.depth := by
  -- A value is read from the only field of an object. Everything else is an error or no result.
  match j with
  | .obj [(name, part)] =>
    obtain ⟨choice, hchoice, hread⟩ := bind_eq_ok_iff.mp h
    have hmem := (choose_eq_ok_iff (by decide)).mp hchoice
    simp only [List.mem_cons, Prod.mk.injEq, List.not_mem_nil, or_false] at hmem
    rcases hmem with ⟨-, rfl⟩ | ⟨-, rfl⟩
    · obtain ⟨_, hfree, heq⟩ := map_eq_ok_iff.mp (mapError_eq_ok_iff.mp hread)
      cases hfree
      cases heq
      exact Nat.lt_of_le_of_lt (depth_canonical_le part)
        (depth_lt_of_mem_fields (List.mem_singleton_self (name, part)))
    · obtain ⟨_, -, heq⟩ := map_eq_ok_iff.mp (mapError_eq_ok_iff.mp hread)
      cases heq
  | .str name =>
    obtain ⟨choice, hchoice, hread⟩ := bind_eq_ok_iff.mp h
    have hmem := (choose_eq_ok_iff (by decide)).mp hchoice
    simp only [List.mem_cons, Prod.mk.injEq, List.not_mem_nil, or_false] at hmem
    rcases hmem with ⟨-, rfl⟩ | ⟨-, rfl⟩ <;> cases hread
  | .obj [] | .obj (_ :: _ :: _) | .null | .bool _ | .int _ | .float _ | .arr _ => cases h

namespace LogEntry

variable {e : LogEntry} {value : Json}

/-- The record of the result of an entry is part of the record of the entry. -/
theorem depth_lt_of_decode {r : Reading} {j : Json} (h : decoder r j = .ok e)
    (hvalue : e.result = .ok value) : value.depth + 1 < j.depth := by
  -- The result stands in a field or at a place, one level further in.
  match j with
  | .obj entries =>
    obtain ⟨make, result, hmake, hresult, rfl⟩ :=
      ofEntries_seq_eq_read_iff.mp (record_obj_eq_ok_iff.mp h)
    obtain ⟨command, -, rfl⟩ := ofEntries_map_eq_read_iff.mp hmake
    obtain ⟨k, part, hpart, hread⟩ | ⟨-, hnone⟩ := ofEntries_field_eq_read_iff.mp hresult
    · obtain ⟨entry, hentry, rfl⟩ := exists_mem_of_occurrences (congrArg Prod.fst hpart)
      subst hvalue
      have hinner := StepResult.depth_lt_of_decode hread
      have houter := depth_lt_of_mem_fields hentry
      omega
    · cases hnone
  | .arr items =>
    obtain ⟨hfields, -⟩ := record_arr_eq_ok_iff.mp h
    obtain ⟨make, result, hmake, hresult, rfl⟩ := Reads.ap_eq_read_iff.mp hfields
    obtain ⟨command, -, rfl⟩ := Reads.map_eq_read_iff.mp hmake
    obtain ⟨part, hpart, hread⟩ | ⟨-, hnone⟩ := ofItems_field_eq_read_iff.mp hresult
    · subst hvalue
      have hinner := StepResult.depth_lt_of_decode hread
      have houter := depth_lt_of_mem_items (List.mem_of_getElem? hpart)
      omega
    · cases hnone
  | .null | .bool _ | .int _ | .float _ | .str _ => cases h

/-- A result that is read from a text leaves two levels of the reader for the records around it. -/
theorem depth_of_ofText_eq_ok {s : String} (h : decoder.ofText s = .ok e)
    (hvalue : e.result = .ok value) : value.depth + 2 ≤ maxDepth :=
  Nat.le_trans (depth_lt_of_decode (Decoder.run_of_ofText_eq_ok h) hvalue) (isBounded_ofText s).depth_le

end LogEntry

/-! ### Logs read back -/

namespace RunLog

variable {run : RunLog}

/-- Texts that are read back one by one are read back in order. -/
theorem mapM_ofText_compact (h : ∀ e ∈ run, e.result.IsCanonical ∧
    e.result.IsPortable (maxDepth - 2)) :
    (run.map fun e => e.toJson.compact).mapM LogEntry.decoder.ofText = .ok run := by
  induction run with
  | nil => rfl
  | cons e rest ih =>
    obtain ⟨⟨hcanonical, hportable⟩, hrest⟩ := List.forall_mem_cons.mp h
    have he : LogEntry.decoder.ofText e.toJson.compact = .ok e :=
      Decoder.ofText_compact (LogEntry.isPortable_toJson hportable)
        (LogEntry.recovers_toJson hcanonical .direct _ (arranged_refl _))
    rw [List.map_cons, List.mapM_cons, he, ih hrest]
    rfl

/-- A log file that is absent at first keeps all runs that are added to it. It has one line for each
entry, whatever texts and names are in the entries. If no result is nested more deeply than the
reader goes inside an entry, the lines are read back as the entries of the runs that are kept in
memory. -/
theorem log_file_keeps_runs (runs : List RunLog)
    (h : ∀ e ∈ runs.flatten, e.result.IsCanonical ∧ ∃ levels, e.result.IsPortable levels) :
    ∃ (text : String) (lines : List String),
      runs.foldlM appendTo .absent = .ok (if runs = [] then .absent else .text text) ∧
      List.splitOn '\n' text.toList = lines.map String.toList ++ [[]] ∧
      lines.length = runs.flatten.length ∧
      ((∀ e ∈ runs.flatten, e.result.IsPortable (maxDepth - 2)) →
        lines.mapM LogEntry.decoder.ofText = .ok (runs.foldl keepIn []).flatten) := by
  refine ⟨_, runs.flatten.map fun e => e.toJson.compact, foldlM_appendTo_absent runs, ?_,
    List.length_map _, fun hdepth => ?_⟩
  -- No line has a line break in it, so the lines are the entries.
  · have hfloats : ∀ e ∈ runs.flatten, e.toJson.HasNoFloats := by
      intro e he
      obtain ⟨-, levels, hportable⟩ := h e he
      exact (LogEntry.isPortable_toJson hportable).hasNoFloats
    have htexts : (String.toList ∘ fun e : LogEntry => e.toJson.compact) =
        fun e => e.toJson.compactChars :=
      funext fun e => String.toList_ofList
    rw [splitOn_lines hfloats, List.map_map, htexts]
  · rw [foldl_keepIn, List.nil_append]
    exact mapM_ofText_compact fun e he => ⟨(h e he).1, hdepth e he⟩

/-- Two runs, one of a message with a line feed in it. -/
theorem log_file_keeps_runs_message :
    let runs : List RunLog := [[⟨.message "a\nb", .error "c\nd"⟩], [],
      [⟨.exec "return 1\n", .ok (.arr [.int 1, .str "\n"])⟩, ⟨.break, .ok (.str "break")⟩]]
    ∃ (text : String) (lines : List String),
      runs.foldlM appendTo .absent = .ok (.text text) ∧
      List.splitOn '\n' text.toList = lines.map String.toList ++ [[]] ∧ lines.length = 3 ∧
      lines.mapM LogEntry.decoder.ofText = .ok (runs.foldl keepIn []).flatten := by
  intro runs
  have hword : IsWord 1 := by decide
  have hresults : ∀ e ∈ runs.flatten,
      e.result.IsCanonical ∧ e.result.IsPortable (maxDepth - 2) := by
    simp [runs, StepResult.IsCanonical, StepResult.IsPortable, isCanonical_arr_iff, maxDepth, hword]
  obtain ⟨text, lines, hfile, hlines, hlength, hread⟩ :=
    log_file_keeps_runs runs fun e he => ⟨(hresults e he).1, _, (hresults e he).2⟩
  exact ⟨text, lines, hfile, hlines, hlength, hread fun e he => (hresults e he).2⟩

/-- Empty arrays inside one another, as many as are asked for and one more. -/
def brackets : Nat → Json
  | 0 => .arr []
  | n + 1 => .arr [brackets n]

/-- Each pair of brackets is one level. -/
private theorem depth_brackets (n : Nat) : (brackets n).depth = n + 1 := by
  induction n with
  | zero => rfl
  | succ n ih => rw [brackets, depth, depthOfItems, depthOfItems, ih, Nat.max_zero]

/-- Empty brackets are canonical. -/
private theorem isCanonical_brackets (n : Nat) : (brackets n).IsCanonical := by
  induction n with
  | zero => rfl
  | succ n ih => exact isCanonical_arr_iff.mpr (List.forall_mem_singleton.mpr ih)

/-- Brackets are portable at the level they reach. -/
private theorem isPortable_brackets (n : Nat) : (brackets n).IsPortable (n + 1) := by
  induction n with
  | zero => exact isPortable_arr_iff.mpr (List.forall_mem_nil _)
  | succ n ih => exact isPortable_arr_iff.mpr (List.forall_mem_singleton.mpr ih)

/-- A result of 126 levels is kept in memory, but its line in a log file is not read back. -/
theorem log_file_of_deep_result :
    let e : LogEntry := ⟨.break, .ok (brackets 125)⟩
    e.result.IsCanonical ∧ e.result.IsPortable 126 ∧
      ∃ (text : String) (line : String), [[e]].foldlM appendTo .absent = .ok (.text text) ∧
        List.splitOn '\n' text.toList = [line.toList, []] ∧
        [line].mapM LogEntry.decoder.ofText ≠ .ok ([[e]].foldl keepIn []).flatten := by
  intro e
  have hportable : e.result.IsPortable 126 := isPortable_brackets 125
  have hlines := @splitOn_lines [e]
    (List.forall_mem_singleton.mpr (LogEntry.isPortable_toJson hportable).hasNoFloats)
  refine ⟨isCanonical_brackets 125, hportable, _, e.toJson.compact, foldlM_appendTo_absent [[e]], ?_,
    fun hread => ?_⟩
  · rw [Json.compact, String.toList_ofList]
    exact hlines
  · rw [List.mapM_cons] at hread
    cases hentry : LogEntry.decoder.ofText e.toJson.compact with
    | error failure =>
      rw [hentry] at hread
      cases hread
    | ok read =>
      rw [hentry] at hread
      have heq : [read] = [e] := Except.ok.inj hread
      -- The entry would have been read with more levels than the reader has.
      have hdepth := LogEntry.depth_of_ofText_eq_ok hentry
        (congrArg LogEntry.result (List.cons.inj heq).1)
      rw [depth_brackets] at hdepth
      exact absurd hdepth (by decide)

end RunLog

end PageScript
