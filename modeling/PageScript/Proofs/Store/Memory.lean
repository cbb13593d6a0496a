import PageScript.Proofs.Event.Record
import PageScript.Proofs.Json.Bounds
import PageScript.Proofs.Json.Reader
import PageScript.Store.Basic

/-!
# A file store is a store in memory

A store in a file reads, changes and writes the whole file for every call. As long as what it keeps
comes back from the file as it was, nobody who calls it can tell it from a store in memory, also if
the file is opened anew between the calls. A file that holds no values is an error for every call,
and is left as it is.

* `Json.lookup_insertField`, `Store.get_set` — the store in memory is a map;
* `Store.readFile_eq_ok_iff` — which files hold values;
* `Store.Holds.depth_lt` — how deeply these values can be nested;
* `Store.Operation.exists_apply_eq` — one operation on both stores;
* `Store.file_refines_memory` — any operations on both stores.
-/

namespace PageScript

open Json Record

/-! ### Maps -/

/-- Putting a value under a key changes what is found under that key only. -/
theorem Json.lookup_insertField (key key' : String) (value : Json) (fields : List (String × Json)) :
    lookup key' (insertField key value fields) =
      if key = key' then some value else lookup key' fields := by
  induction fields with
  | nil => rfl
  | cons field rest ih =>
    obtain ⟨k, v⟩ := field
    rw [insertField]
    -- The field is put in front of a greater key, in the place of its own, or further on.
    by_cases hlt : key < k
    · rw [if_pos hlt, lookup]
    · rw [if_neg hlt]
      by_cases heq : key = k
      · subst heq
        by_cases hkey : key = key' <;> simp [lookup, hkey]
      · rw [if_neg heq, lookup, lookup, ih]
        by_cases hkey : k = key'
        · subst hkey
          simp [heq]
        · simp [hkey]

namespace Store

variable {content : FileContent} {entries : Entries} {s : String}

/-! ### Files that hold values -/

/-- A file holds some values if it is absent or blank and there are none, or if it is an object of
these values. -/
inductive Holds : FileContent → Entries → Prop
  | absent : Holds .absent []
  | blank {s : String} (h : isBlankText s = true) : Holds (.text s) []
  | object {s : String} {entries : Entries} (hblank : isBlankText s = false)
      (h : Json.parse s = .ok (.obj entries)) : Holds (.text s) entries

/-- A text is read as values under keys if it is an object. -/
theorem ofText_entriesDecoder_eq_ok_iff :
    entriesDecoder.ofText s = .ok entries ↔ Json.parse s = .ok (.obj entries) := by
  rw [Decoder.ofText, Json.parse]
  obtain ⟨doc, trailing⟩ := Document.ofText s
  simp only [Decoder.run]
  generalize (doc.fault? <|> trailing) = fault
  cases hraw : doc.raw with
  | obj fields => cases fault <;> simp [entriesDecoder, canonical]
  | _ =>
    simp only [entriesDecoder, refuse, Failure.here, canonical]
    cases fault <;> split <;> simp

/-- A file is read just if it holds entries. -/
theorem readFile_eq_ok_iff : readFile content = .ok entries ↔ Holds content entries := by
  constructor
  · intro h
    match content with
    | .absent =>
      cases h
      exact .absent
    | .text s =>
      simp only [readFile, FileContent.read] at h
      split at h
      · cases h
        exact .blank ‹_›
      -- What is not blank is read as an object, or not at all.
      · refine .object (by simpa using ‹¬ isBlankText s = true›) ?_
        cases hread : entriesDecoder.ofText s with
        | ok found =>
          rw [hread] at h
          cases h
          exact ofText_entriesDecoder_eq_ok_iff.mp hread
        | error failure =>
          rw [hread] at h
          cases h
  · intro h
    cases h with
    | absent => rfl
    | blank hblank => simp [readFile, FileContent.read, hblank]
    | object hblank h =>
      simp [readFile, FileContent.read, hblank, ofText_entriesDecoder_eq_ok_iff.mpr h,
        Except.mapError]

/-! ### Calls of a file that holds values -/

/-- A key is looked up in a file as in the memory that it holds. -/
theorem get_file (h : Holds content entries) (key : String) :
    (Store.file content).get key = (Store.memory entries).get key := by
  rw [get, get, Store.entries, Store.entries, readFile_eq_ok_iff.mpr h]

/-- A recipe is loaded from a file as from the memory that it holds. -/
theorem load_file (h : Holds content entries) (name : String) :
    (Store.file content).load name = (Store.memory entries).load name := by
  rw [load, load, get_file h]

/-- A file is written as the entries with the new one among them. -/
theorem set_file (h : Holds content entries) (key : String) (value : Json) :
    (Store.file content).set key value =
      .ok (.file (.text (fileText (Json.insertField key value entries)))) := by
  have hwrite : ∀ s, content.write s = .ok (.text s) := by
    cases h <;> exact fun _ => rfl
  rw [Store.set, readFile_eq_ok_iff.mpr h]
  simp only [bind, Except.bind, writeFile, hwrite, Except.mapError]
  rfl

/-- The store in memory is a map from keys to values. -/
theorem get_set (key key' : String) (value : Json) :
    ∃ s, (Store.memory entries).set key value = .ok s ∧
      s.get key' = if key = key' then .ok (some value) else (Store.memory entries).get key' := by
  refine ⟨_, rfl, ?_⟩
  rw [get, get, Store.entries, Store.entries, Except.map, Except.map, lookup_insertField]
  split <;> rfl

/-! ### Calls of a file that holds none -/

variable (h : ∀ entries, ¬ Holds content entries)

include h

/-- A file that holds no entries is not read. -/
theorem exists_readFile_eq_error : ∃ e, readFile content = .error e := by
  cases hread : readFile content with
  | ok entries => exact absurd (readFile_eq_ok_iff.mp hread) (h entries)
  | error e => exact ⟨e, rfl⟩

/-- A file that holds no entries looks up nothing. -/
theorem exists_get_eq_error (key : String) : ∃ e, (Store.file content).get key = .error e := by
  obtain ⟨e, he⟩ := exists_readFile_eq_error h
  exact ⟨e, by rw [get, Store.entries, he, Except.map]⟩

/-- A file that holds no entries is not written. -/
theorem exists_set_eq_error (key : String) (value : Json) :
    ∃ e, (Store.file content).set key value = .error e := by
  obtain ⟨e, he⟩ := exists_readFile_eq_error h
  exact ⟨e, by rw [Store.set, he]; rfl⟩

/-- A file that holds no entries loads nothing. -/
theorem exists_load_eq_error (name : String) : ∃ e, (Store.file content).load name = .error e := by
  obtain ⟨e, he⟩ := exists_get_eq_error h (Recipe.keyFor name)
  exact ⟨e, by rw [load, he]; rfl⟩

omit h

/-! ### What a file carries -/

/-- The values that a file carries as they are: those of an object that is portable. -/
structure Carries (content : FileContent) (entries : Entries) : Prop where
  holds : Holds content entries
  canonical : (Json.obj entries).IsCanonical
  portable : (Json.obj entries).IsPortable maxDepth

/-- What a file holds is canonical, has integers of 64 bits and finite numbers, and is nested no more
deeply than the reader goes. -/
theorem Holds.canonical_and_readable (h : Holds content entries) :
    (Json.obj entries).IsCanonical ∧ (Json.obj entries).IsReadable maxDepth := by
  have hempty : (Json.obj []).IsCanonical ∧ (Json.obj []).IsReadable maxDepth :=
    ⟨rfl, isReadable_obj_iff.mpr (List.forall_mem_nil _)⟩
  cases h with
  | absent => exact hempty
  | blank => exact hempty
  | object _ h => exact canonical_and_readable_of_parse h

/-- What a file holds is carried by it if there are no floating-point numbers in it. -/
theorem Holds.carries (h : Holds content entries) (hfloats : (Json.obj entries).HasNoFloats) :
    Carries content entries :=
  ⟨h, h.canonical_and_readable.1, h.canonical_and_readable.2.toIsBounded, hfloats⟩

/-- No file holds a value that is nested as deeply as the reader goes: the object around the value
is one more level. -/
theorem Holds.depth_lt (h : Holds content entries) {entry : String × Json}
    (hentry : entry ∈ entries) : entry.2.depth < maxDepth := by
  have hbounded : entry.2.IsBounded 126 :=
    isBounded_obj_iff.mp h.canonical_and_readable.2.toIsBounded entry hentry
  exact Nat.lt_of_le_of_lt hbounded.depth_le (by decide)

/-- The text of values is no blank one. -/
theorem isBlankText_fileText (entries : Entries) : isBlankText (fileText entries) = false := by
  cases entries with
  | nil => rfl
  | cons entry rest => simp [isBlankText, fileText, pretty, prettyChars, Text.isBlank]

/-- A file to which portable values are written holds them. -/
theorem holds_fileText (hcanonical : (Json.obj entries).IsCanonical)
    (hportable : (Json.obj entries).IsPortable maxDepth) :
    Holds (.text (fileText entries)) entries := by
  refine .object (isBlankText_fileText entries) ?_
  rw [fileText, parse_pretty hportable, hcanonical]

end Store

/-- A value that a file carries as it is: the values of a store are canonical, and what is read back
from a text has 64 bits in its integers, no floating-point numbers, and is nested less deeply than
the reader goes. -/
structure Json.IsStorable (value : Json) : Prop where
  canonical : value.IsCanonical
  hasWords : value.HasWords
  hasNoFloats : value.HasNoFloats
  depth_lt : value.depth < maxDepth

namespace Store

variable {content : FileContent} {entries : Entries} {key : String} {value : Json}

/-- Putting a canonical value under a key keeps the values of a store canonical. -/
theorem isCanonical_insertField (h : (Json.obj entries).IsCanonical) (hvalue : value.IsCanonical)
    (key : String) : (Json.obj (Json.insertField key value entries)).IsCanonical := by
  obtain ⟨hsorted, hcanonical⟩ := isCanonical_obj_iff.mp h
  refine isCanonical_obj_iff.mpr ⟨hsorted.insertField key value, fun field hfield => ?_⟩
  rcases eq_or_mem_of_mem_insertField hfield with rfl | hfield
  · exact hvalue
  · exact hcanonical field hfield

/-- A file carries a storable value along with what it carries already. -/
theorem Carries.insertField (h : Carries content entries) (hvalue : value.IsStorable)
    (key : String) :
    Carries (.text (fileText (Json.insertField key value entries)))
      (Json.insertField key value entries) := by
  have hportable : ∀ field ∈ entries, field.2.IsPortable 126 := isPortable_obj_iff.mp h.portable
  have hvalue' : value.IsPortable 126 :=
    ⟨⟨hvalue.hasWords, Nat.le_of_lt_succ hvalue.depth_lt⟩, hvalue.hasNoFloats⟩
  have hcanonical' := isCanonical_insertField h.canonical hvalue.canonical key
  have hportable' : (Json.obj (Json.insertField key value entries)).IsPortable maxDepth := by
    refine isPortable_obj_iff.mpr fun field hfield => ?_
    rcases eq_or_mem_of_mem_insertField hfield with rfl | hfield
    · exact hvalue'
    · exact hportable field hfield
  exact ⟨holds_fileText hcanonical' hportable', hcanonical', hportable'⟩

end Store

/-! ### Recipes -/

/-- A text that may be absent leaves an object bounded. -/
theorem Json.isBounded_obj_append_fieldIfPresent {d : Nat} {fields : List (String × Json)}
    (h : ∀ field ∈ fields, field.2.IsBounded d) (name : String) (s : Option String) :
    IsBounded (d + 1) (.obj (fields ++ fieldIfPresent name s)) := by
  rw [isBounded_obj_iff, List.forall_mem_append]
  refine ⟨h, ?_⟩
  cases s <;> simp [fieldIfPresent]

/-- What a number is written as is bounded. -/
theorem Json.isBounded_ofNumber {d : Nat} (x : Binary64) : IsBounded d (ofNumber x) := by
  rw [ofNumber]
  split <;> simp

/-- The content of an event is one level deep at most. -/
private theorem EventDetails.isBounded_content (d : EventDetails) : d.content.IsBounded 1 := by
  cases d with
  | dom m => exact isBounded_obj_append_fieldIfPresent (by simp) _ _
  | location url => exact isBounded_str url
  | focus gained => exact isBounded_bool gained
  | elementFocus e => exact isBounded_obj_append_fieldIfPresent (by simp) _ _
  | keydown k => exact isBounded_obj_iff.mpr (by simp)
  | click c =>
    have hbutton : IsWord c.button.toNat :=
      isWord_toNat (Nat.lt_trans c.button.toNat_lt (by decide))
    exact isBounded_obj_append_fieldIfPresent (by simp [isBounded_ofNumber, hbutton]) _ _

/-- The record of an event is two levels deep at most. -/
theorem Event.isBounded_toJson (e : Event) : e.toJson.IsBounded 2 :=
  isBounded_obj_iff.mpr (by
    simp [EventDetails.fields, e.details.isBounded_content, isWord_toNat e.timestamp.toNat_lt])

/-- A recipe is nested in few levels, whatever its events are. -/
theorem Recipe.isBounded_toJson (recipe : Recipe) : recipe.toJson.IsBounded 4 := by
  have hevents : (Json.arr (recipe.events.map Event.toJson)).IsBounded 3 :=
    isBounded_arr_iff.mpr (List.forall_mem_map.mpr fun e _ => e.isBounded_toJson)
  exact isBounded_obj_iff.mpr (by simp [hevents, isWord_toNat recipe.savedAt.toNat_lt])

/-- A recipe whose record has no floating-point number can be stored as it is. -/
private theorem Recipe.isStorable_toJson {recipe : Recipe} (h : recipe.toJson.HasNoFloats) :
    recipe.toJson.canonical.IsStorable where
  canonical := isCanonical_canonical _
  hasWords := recipe.isBounded_toJson.canonical.hasWords
  hasNoFloats := h.canonical
  depth_lt := Nat.lt_of_le_of_lt recipe.isBounded_toJson.canonical.depth_le (by decide)

/-! ### Operations -/

namespace Store

/-- What can be done with a store: calls, and opening it anew. -/
inductive Operation where
  | get (key : String)
  | set (key : String) (value : Json)
  | save (recipe : Recipe)
  | load (name : String)
  | reopen

/-- The answer to a call. -/
inductive Answer where
  | found (value : Option Json)
  | stored
  | saved (recipe : Recipe)
  | loaded (recipe : Option Recipe)
  | failed (error : StoreError)

/-- The store after it has been opened anew. A store in memory begins empty. -/
def reopened : Store → Store
  | .memory _ => .memory []
  | .file content => .file content

namespace Operation

/-- The operation is a call. -/
def isCall : Operation → Bool
  | .reopen => false
  | _ => true

/-- What an operation stores is what a file carries as it is. -/
def IsStorable : Operation → Prop
  | .set _ value => value.IsStorable
  | .save recipe => recipe.toJson.HasNoFloats
  | _ => True

/-- The answer to an operation, if it is a call, and the store after it. A call that fails leaves
the store as it is. -/
def apply (s : Store) : Operation → Option Answer × Store
  | .get key =>
    match s.get key with
    | .ok value => (some (.found value), s)
    | .error e => (some (.failed e), s)
  | .set key value =>
    match s.set key value with
    | .ok s' => (some .stored, s')
    | .error e => (some (.failed e), s)
  | .save recipe =>
    match s.save recipe with
    | .ok s' => (some (.saved recipe), s')
    | .error e => (some (.failed e), s)
  | .load name =>
    match s.load name with
    | .ok recipe => (some (.loaded recipe), s)
    | .error e => (some (.failed e), s)
  | .reopen => (none, s.reopened)

/-- The answers to operations, and the store after them. -/
def run (s : Store) : List Operation → List Answer × Store
  | [] => ([], s)
  | op :: rest =>
    let (answer, s) := op.apply s
    let (answers, s) := run s rest
    (answer.toList ++ answers, s)

variable {op : Operation} {content : FileContent} {entries : Entries}

/-! ### One operation -/

/-- A call that finds values in a file gets the answer that it gets from these values in memory, and
leaves the two with the same values. -/
theorem exists_apply_eq (h : Carries content entries) (hop : op.IsStorable)
    (hcall : op.isCall = true) :
    ∃ answer content' entries', op.apply (.file content) = (some answer, .file content') ∧
      op.apply (.memory entries) = (some answer, .memory entries') ∧
      Carries content' entries' := by
  cases op with
  | get key =>
    refine ⟨_, content, entries, ?_, rfl, h⟩
    rw [apply, get_file h.holds]
    rfl
  -- What is written is read again as what the memory holds.
  | set key value =>
    refine ⟨.stored, _, _, ?_, rfl, h.insertField hop key⟩
    rw [apply, set_file h.holds]
  | save recipe =>
    refine ⟨.saved recipe, _, _, ?_, rfl, h.insertField (Recipe.isStorable_toJson hop) _⟩
    rw [apply, Store.save, set_file h.holds]
  | load name =>
    rw [apply, apply, load_file h.holds]
    cases (Store.memory entries).load name with
    | ok recipe => exact ⟨_, content, entries, rfl, rfl, h⟩
    | error e => exact ⟨_, content, entries, rfl, rfl, h⟩
  | reopen => cases hcall

/-- A call of a file without values fails, and leaves the file as it is. -/
theorem exists_apply_eq_failed (h : ∀ entries, ¬ Holds content entries)
    (hcall : op.isCall = true) :
    ∃ e, op.apply (.file content) = (some (.failed e), .file content) := by
  cases op with
  | get key =>
    obtain ⟨e, he⟩ := exists_get_eq_error h key
    exact ⟨e, by rw [apply, he]⟩
  | set key value =>
    obtain ⟨e, he⟩ := exists_set_eq_error h key value
    exact ⟨e, by rw [apply, he]⟩
  | save recipe =>
    obtain ⟨e, he⟩ := exists_set_eq_error h (Recipe.keyFor recipe.name) recipe.toJson.canonical
    exact ⟨e, by rw [apply, Store.save, he]⟩
  | load name =>
    obtain ⟨e, he⟩ := exists_load_eq_error h name
    exact ⟨e, by rw [apply, he]⟩
  | reopen => cases hcall

/-- Opening a file anew is answered by nothing, and leaves the file as it is. -/
theorem apply_of_not_isCall (hcall : op.isCall = false) :
    op.apply (.file content) = (none, .file content) := by
  cases op with
  | reopen => rfl
  | _ => cases hcall

/-! ### Runs -/

/-- Operations are carried out one after the other. -/
theorem run_cons {s s' : Store} {answer : Option Answer} (h : op.apply s = (answer, s'))
    (rest : List Operation) :
    run s (op :: rest) = (answer.toList ++ (run s' rest).1, (run s' rest).2) := by
  rw [run, h]

/-- Any operations on a file that carries values, and their calls in memory, come to the same. -/
theorem exists_run_eq (h : Carries content entries) {ops : List Operation}
    (hops : ∀ op ∈ ops, op.IsStorable) :
    ∃ answers content' entries', run (.file content) ops = (answers, .file content') ∧
      run (.memory entries) (ops.filter isCall) = (answers, .memory entries') ∧
      Carries content' entries' := by
  induction ops generalizing content entries with
  | nil => exact ⟨[], content, entries, rfl, rfl, h⟩
  | cons op rest ih =>
    obtain ⟨hop, hrest⟩ := List.forall_mem_cons.mp hops
    -- To reopen the file answers nothing and changes nothing.
    cases hcall : op.isCall with
    | true =>
      obtain ⟨answer, content', entries', hfile, hmemory, h'⟩ := exists_apply_eq h hop hcall
      obtain ⟨answers, content'', entries'', hfiles, hmemories, h''⟩ := ih h' hrest
      refine ⟨answer :: answers, content'', entries'', ?_, ?_, h''⟩
      · rw [run_cons hfile, hfiles]
        rfl
      · rw [List.filter_cons_of_pos hcall, run_cons hmemory, hmemories]
        rfl
    | false =>
      obtain ⟨answers, content'', entries'', hfiles, hmemories, h''⟩ := ih h hrest
      refine ⟨answers, content'', entries'', ?_, ?_, h''⟩
      · rw [run_cons (apply_of_not_isCall hcall), hfiles]
        rfl
      · rw [List.filter_cons_of_neg (by simp [hcall]), hmemories]

/-- Any operations on a file without values leave it as it is, and each of their calls fails. -/
theorem run_eq_failed (h : ∀ entries, ¬ Holds content entries) (ops : List Operation) :
    ∃ errors : List StoreError, errors.length = (ops.filter isCall).length ∧
      run (.file content) ops = (errors.map .failed, .file content) := by
  induction ops with
  | nil => exact ⟨[], rfl, rfl⟩
  | cons op rest ih =>
    obtain ⟨errors, hlength, hrest⟩ := ih
    -- Every call fails and leaves the file as it is, so the next one finds it so.
    cases hcall : op.isCall with
    | true =>
      obtain ⟨e, he⟩ := exists_apply_eq_failed h hcall
      refine ⟨e :: errors, ?_, ?_⟩
      · rw [List.filter_cons_of_pos hcall, List.length_cons, List.length_cons, hlength]
      · rw [run_cons he, hrest]
        rfl
    | false =>
      refine ⟨errors, ?_, ?_⟩
      · rw [List.filter_cons_of_neg (by simp [hcall]), hlength]
      · rw [run_cons (apply_of_not_isCall hcall), hrest]
        rfl

end Operation

/-- A store in a file cannot be told from one in memory. If the file is absent, blank or an object,
then operations on it, among them opening it anew, are answered as their calls are by a store in
memory with the values of that object, and the file holds the values of that store afterwards. If
the file is anything else, every call fails and the file stays as it is. -/
theorem file_refines_memory (content : FileContent) (ops : List Operation) :
    (∀ entries, Holds content entries → (Json.obj entries).HasNoFloats →
        (∀ op ∈ ops, op.IsStorable) →
        ∃ answers content' entries',
          Operation.run (.file content) ops = (answers, .file content') ∧
          Operation.run (.memory entries) (ops.filter Operation.isCall) =
            (answers, .memory entries') ∧
          Holds content' entries') ∧
      ((∀ entries, ¬ Holds content entries) →
        ∃ errors : List StoreError, errors.length = (ops.filter Operation.isCall).length ∧
          Operation.run (.file content) ops = (errors.map .failed, .file content)) := by
  refine ⟨fun entries hholds hfloats hops => ?_, fun h => Operation.run_eq_failed h ops⟩
  obtain ⟨answers, content', entries', hfile, hmemory, h⟩ :=
    Operation.exists_run_eq (hholds.carries hfloats) hops
  exact ⟨answers, content', entries', hfile, hmemory, h.holds⟩

/-- A file with one value in it takes another one and a recipe, and a directory takes nothing. -/
theorem file_refines_memory_save :
    let entries : Entries := [("a", .null)]
    let recipe : Recipe := ⟨"Log in", 1700000000000, [⟨.location "https://a.test/", 7⟩]⟩
    let ops := [.set "b\n" (.arr [.int (-7), .obj []]), .reopen, .save recipe, .get "b\n",
      .load "log in"]
    (∃ answers content' entries',
        Operation.run (.file (.text (fileText entries))) ops = (answers, .file content') ∧
        Operation.run (.memory entries) (ops.filter Operation.isCall) =
          (answers, .memory entries') ∧
        Holds content' entries') ∧
      ∃ errors : List StoreError, errors.length = 4 ∧
        Operation.run (.file .directory) ops = (errors.map .failed, .file .directory) := by
  intro entries recipe ops
  have hcanonical : (Json.obj entries).IsCanonical := by
    simp [entries, isCanonical_obj_iff, Sorted]
  have hportable : (Json.obj entries).IsPortable maxDepth := by
    simp [entries, maxDepth]
  have hvalue : (Json.arr [.int (-7), .obj []]).IsPortable 2 := by
    have hword : IsWord (-7) := by decide
    simp [hword]
  have hrecipe : recipe.toJson.HasNoFloats := by
    simp [HasNoFloats, leaves, leavesOfItems, leavesOfFields, recipe, Recipe.toJson, Event.toJson,
      EventDetails.fields, EventDetails.content]
  -- Neither the value nor the recipe has a number that could be read as another one.
  have hops : ∀ op ∈ ops, op.IsStorable := by
    simp only [ops, List.forall_mem_cons]
    refine ⟨⟨?_, hvalue.hasWords, hvalue.hasNoFloats, ?_⟩, trivial, hrecipe, trivial, trivial,
      List.forall_mem_nil _⟩
    · simp [isCanonical_arr_iff, isCanonical_obj_iff, Sorted]
    · exact Nat.lt_of_le_of_lt hvalue.depth_le (by decide)
  have hdirectory : ∀ entries, ¬ Holds .directory entries := by
    intro entries h
    cases h
  exact ⟨(file_refines_memory _ ops).1 entries (holds_fileText hcanonical hportable)
    hportable.hasNoFloats hops, (file_refines_memory .directory ops).2 hdirectory⟩

end Store

end PageScript
