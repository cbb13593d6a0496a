import Mathlib.Data.List.Nodup
import Mathlib.Tactic.SplitIfs
import PageScript.Record.Decoder

/-!
# When records are read

A record is read exactly when each of its fields is, and a field when its name occurs once in the
object with a value of its type. A tagged choice is read as the variant that its tag names.

* `record_obj_eq_ok_iff` — a record in an object is what its fields are read as;
* `ofEntries_map_eq_read_iff`, `ofEntries_seq_eq_read_iff`, `ofEntries_field_eq_read_iff` — one
  result for each way to build fields;
* `run_tagged_obj` — a tagged choice whose tag comes first.
-/

namespace PageScript.Record

variable {α β : Type}

/-! ### Fields -/

namespace Reads

/-- What is made of a read value was read. -/
theorem map_eq_read_iff {f : α → β} {reads : Reads α} {b : β} :
    reads.map f = .read b ↔ ∃ a, reads = .read a ∧ f a = b := by
  cases reads <;> simp [map]

/-- What a read function makes of a read value, the function being read first. -/
theorem ap_eq_read_iff {fs : Reads (α → β)} {reads : Reads α} {b : β} :
    fs.ap reads = .read b ↔ ∃ f a, fs = .read f ∧ reads = .read a ∧ f a = b := by
  cases fs <;> cases reads <;> simp [ap]
  split <;> simp

end Reads

variable {r : Reading} {i : Nat} {entries : List (String × Json)}

/-- What fields make was read from the entries. -/
@[simp]
theorem ofEntries_map_eq_read_iff {f : α → β} {fields : Fields α} {b : β} :
    (f <$> fields).ofEntries r i entries = .read b ↔
      ∃ a, fields.ofEntries r i entries = .read a ∧ f a = b :=
  Reads.map_eq_read_iff

/-- Two groups of fields are read from the same entries, the second one with its places behind those
of the first. -/
@[simp]
theorem ofEntries_seq_eq_read_iff {fs : Fields (α → β)} {fields : Fields α} {b : β} :
    (fs <*> fields).ofEntries r i entries = .read b ↔
      ∃ f a, fs.ofEntries r i entries = .read f ∧
        fields.ofEntries r (i + fs.size) entries = .read a ∧ f a = b :=
  Reads.ap_eq_read_iff

/-- A field has one place. -/
@[simp]
theorem size_field (name : String) (d : Decoder α) (fallback : Option α) :
    (field name d fallback).size = 1 := rfl

/-- A field is read from the one value of its name, or takes its fallback. -/
@[simp]
theorem ofEntries_field_eq_read_iff {name : String} {d : Decoder α} {fallback : Option α} {a : α} :
    (field name d fallback).ofEntries r i entries = .read a ↔
      (∃ k j, occurrences name entries = (some (k, j), none) ∧ d r j = .ok a) ∨
        (occurrences name entries).1 = none ∧ fallback = some a := by
  change readEntry name d fallback r i entries = .read a ↔ _
  unfold readEntry
  generalize occurrences name entries = found
  obtain ⟨first, second⟩ := found
  -- A field that is there twice is an error, whatever is read from it first.
  cases first with
  | none => cases fallback <;> simp
  | some first =>
    obtain ⟨k, j⟩ := first
    cases hj : d r j with
    | error failure => simp [hj]
    | ok value =>
      cases second with
      | some again => simp [hj]
      | none => simp [hj, and_assoc]

/-- A record is read from an object just if its fields are. -/
theorem record_obj_eq_ok_iff {shape : Expectation} {fields : Fields α} {a : α} :
    record shape fields r (.obj entries) = .ok a ↔ fields.ofEntries r 0 entries = .read a := by
  rw [record]
  cases fields.ofEntries r 0 entries <;> simp

/-- A field is read from the item at its place, or takes its fallback. -/
theorem ofItems_field_eq_read_iff {name : String} {d : Decoder α} {fallback : Option α}
    {items : List Json} {a : α} :
    (field name d fallback).ofItems r i items = .read a ↔
      (∃ j, items[i]? = some j ∧ d r j = .ok a) ∨ items[i]? = none ∧ fallback = some a := by
  change readItem name d fallback r i items = .read a ↔ _
  unfold readItem
  cases items[i]? with
  | none => cases fallback <;> simp
  | some j => cases hd : d r j <;> simp [hd]

/-- A record is read from an array that has an item for each field, and no other items. -/
theorem record_arr_eq_ok_iff {shape : Expectation} {fields : Fields α} {items : List Json} {a : α} :
    record shape fields r (.arr items) = .ok a ↔
      fields.ofItems r 0 items = .read a ∧ items.length ≤ fields.size := by
  rw [record]
  cases fields.ofItems r 0 items with
  | read value =>
    unfold checkLength
    split_ifs with hlength <;> simp [bind, Except.bind, pure, Except.pure, hlength]
  | _ => simp

/-! ### What a record can be read as -/

/-- Whatever the fields are read as, by name or by place, has a property. -/
structure Fields.Yields (fields : Fields α) (P : α → Prop) : Prop where
  ofEntries : ∀ {r i entries a}, fields.ofEntries r i entries = .read a → P a
  ofItems : ∀ {r i items a}, fields.ofItems r i items = .read a → P a

/-- What is made of any value yields what holds of all that is made. -/
theorem yields_map {fields : Fields α} {f : α → β} {P : β → Prop} (h : ∀ a, P (f a)) :
    (f <$> fields).Yields P where
  ofEntries hread := by
    obtain ⟨a, -, rfl⟩ := Reads.map_eq_read_iff.mp hread
    exact h a
  ofItems hread := by
    obtain ⟨a, -, rfl⟩ := Reads.map_eq_read_iff.mp hread
    exact h a

/-- What fields make of a further value yields what holds of all of them. -/
theorem Fields.Yields.seq {fs : Fields (α → β)} {fields : Fields α} {P : β → Prop}
    (h : fs.Yields fun f => ∀ a, P (f a)) : (fs <*> fields).Yields P where
  ofEntries hread := by
    obtain ⟨f, a, hf, -, rfl⟩ := Reads.ap_eq_read_iff.mp hread
    exact h.ofEntries hf a
  ofItems hread := by
    obtain ⟨f, a, hf, -, rfl⟩ := Reads.ap_eq_read_iff.mp hread
    exact h.ofItems hf a

/-- What fields yield holds of each record that is read. -/
theorem Fields.Yields.of_record {fields : Fields α} {P : α → Prop} {shape : Expectation} {j : Json}
    {a : α} (h : fields.Yields P) (hread : record shape fields r j = .ok a) : P a := by
  match j with
  | .obj entries => exact h.ofEntries (record_obj_eq_ok_iff.mp hread)
  | .arr items => exact h.ofItems (record_arr_eq_ok_iff.mp hread).1

/-! ### Values that were put aside -/

/-- A value that was put aside is read as one that is buffered. -/
theorem runAside_eq_ok_iff {d : Decoder α} {j : Json} {a : α} :
    d.runAside j = .ok a ↔ d .buffered j = .ok a := by
  rw [Decoder.runAside]
  cases d .buffered j <;> simp [Except.mapError]

/-- A value that is not empty is read by the decoder that it has. -/
theorem optional_eq_ok_iff {d : Decoder α} {j : Json} {a : Option α} (hj : j ≠ .null) :
    optional d r j = .ok a ↔ ∃ value, d r j = .ok value ∧ a = some value := by
  have : optional d r j = (d r j).map some := by
    cases j <;> first | rfl | exact absurd rfl hj
  rw [this]
  cases d r j <;> simp [Except.map, eq_comm]

/-- An integer is read just if it is in the range. -/
theorem integer_int_eq_ok_iff {type : String} {least greatest : Int} {make : Int → α} {n : Int}
    {a : α} :
    integer type least greatest make r (.int n) = .ok a ↔
      (least ≤ n ∧ n ≤ greatest) ∧ make n = a := by
  rw [integer]
  split_ifs with h
  · simp [h]
  · simp [h, refuseValue]

/-! ### Tagged choices -/

/-- A tag in front of the other entries of an object is the only one if none of them is. -/
theorem occurrences_cons_self {tag : String} {j : Json} {entries : List (String × Json)}
    (h : ∀ entry ∈ entries, entry.1 ≠ tag) :
    occurrences tag ((tag, j) :: entries) = (some (0, j), none) := by
  have hnone : (entries.zipIdx 1).filter (fun entry => decide (entry.1.1 = tag)) = [] := by
    rw [List.filter_eq_nil_iff]
    rintro ⟨entry, index⟩ hmem
    simpa using h entry (List.fst_mem_of_mem_zipIdx hmem)
  simp [occurrences, List.zipIdx_cons, hnone]

/-- A tagged choice with its tag in front is read as the variant that the tag names. -/
theorem run_tagged_obj {name tag : String} {variants : List (String × Decoder α)} {kind : String}
    {d : Decoder α} {entries : List (String × Json)} (hkind : choose variants kind = .ok d)
    (hentries : ∀ entry ∈ entries, entry.1 ≠ tag) :
    (tagged name tag variants).run (.obj ((tag, .str kind) :: entries)) =
      d.runAside (.obj entries) := by
  have hrest : ((tag, Json.str kind) :: entries).filter (fun entry => entry.1 ≠ tag) = entries := by
    rw [List.filter_cons_of_neg (by simp), List.filter_eq_self]
    simpa using hentries
  rw [Decoder.run, tagged]
  simp only [occurrences_cons_self hentries, tagName, hkind]
  rw [hrest]
  rfl

/-- Among choices of distinct names a name stands for the one choice it is the name of. -/
theorem choose_eq_ok_iff {choices : List (String × α)} {name : String} {a : α}
    (hnodup : (choices.map Prod.fst).Nodup) :
    choose choices name = .ok a ↔ (name, a) ∈ choices := by
  have hfind : choose choices name = .ok a ↔
      ∃ choice, choices.find? (fun choice => decide (choice.1 = name)) = some choice ∧
        choice.2 = a := by
    rw [choose]
    cases choices.find? fun choice => decide (choice.1 = name) <;> simp
  rw [hfind]
  constructor
  · rintro ⟨⟨found, a⟩, hfound, rfl⟩
    have hname : found = name := by simpa using List.find?_some hfound
    exact hname ▸ List.mem_of_find?_eq_some hfound
  · intro hmem
    refine ⟨(name, a), ?_, rfl⟩
    obtain ⟨before, after, rfl⟩ := List.append_of_mem hmem
    -- No earlier choice has the name, so this one is found.
    have hbefore : ∀ choice ∈ before, choice.1 ≠ name := fun choice hchoice heq => by
      rw [List.map_append, List.map_cons] at hnodup
      exact List.disjoint_of_nodup_append hnodup (List.mem_map_of_mem hchoice) (heq ▸ .head _)
    rw [List.find?_append, List.find?_eq_none.mpr (by simpa using hbefore)]
    simp

/-- A value with a tag and what is left of it without the tag. -/
inductive HasTag (tag : String) : Json → String → Json → Prop
  | obj {entries : List (String × Json)} {i : Nat} {kind : String}
      (h : occurrences tag entries = (some (i, .str kind), none)) :
      HasTag tag (.obj entries) kind (.obj (entries.filter fun entry => entry.1 ≠ tag))
  | arr {rest : List Json} {kind : String} :
      HasTag tag (.arr (.str kind :: rest)) kind (.arr rest)

/-- A tag that is read directly is a text. -/
theorem tagName_direct_eq_ok_iff {choices : List (String × α)} {j : Json} {a : α} :
    tagName choices .direct j = .ok a ↔ ∃ kind, j = .str kind ∧ choose choices kind = .ok a := by
  cases j <;> simp [tagName, refuse]

/-- A failure that is put differently is no success. -/
theorem mapError_eq_ok_iff {x : Except Failure α} {f : Failure → Failure} {a : α} :
    x.mapError f = .ok a ↔ x = .ok a := by
  cases x <;> simp [Except.mapError]

/-- Two decoders succeed one after the other. -/
theorem bind_eq_ok_iff {x : Except Failure α} {f : α → Except Failure β} {b : β} :
    (x >>= f) = .ok b ↔ ∃ a, x = .ok a ∧ f a = .ok b := by
  cases x <;> simp [bind, Except.bind]

/-- A tagged choice is read as the variant that its tag names. -/
theorem run_tagged_eq_ok_iff {name tag : String} {variants : List (String × Decoder α)} {j : Json}
    {a : α} :
    (tagged name tag variants).run j = .ok a ↔
      ∃ kind rest d, HasTag tag j kind rest ∧ choose variants kind = .ok d ∧
        d .buffered rest = .ok a := by
  constructor
  · intro h
    rw [Decoder.run] at h
    -- The tag is a field of an object, or the first item of an array.
    match j with
    | .obj entries =>
      rw [tagged] at h
      split at h
      · cases h
      · rename_i i value second hoccurs
        obtain ⟨d, hd, hrest⟩ := bind_eq_ok_iff.mp h
        obtain ⟨kind, rfl, hkind⟩ := tagName_direct_eq_ok_iff.mp (mapError_eq_ok_iff.mp hd)
        cases second with
        | none => exact ⟨kind, _, d, .obj hoccurs, hkind, runAside_eq_ok_iff.mp hrest⟩
        | some k => cases hrest
    | .arr (value :: rest) =>
      obtain ⟨d, hd, hrest⟩ := bind_eq_ok_iff.mp h
      obtain ⟨kind, rfl, hkind⟩ := tagName_direct_eq_ok_iff.mp (mapError_eq_ok_iff.mp hd)
      exact ⟨kind, _, d, .arr, hkind, runAside_eq_ok_iff.mp hrest⟩
  · rintro ⟨kind, rest, d, htag, hkind, hd⟩
    cases htag with
    | obj h =>
      rw [Decoder.run, tagged, h]
      refine bind_eq_ok_iff.mpr ⟨d, mapError_eq_ok_iff.mpr hkind, ?_⟩
      exact runAside_eq_ok_iff.mpr hd
    | arr => exact bind_eq_ok_iff.mpr ⟨d, mapError_eq_ok_iff.mpr hkind, runAside_eq_ok_iff.mpr hd⟩

/-! ### One of two types -/

/-- What is made of a result is a result. -/
theorem map_eq_ok_iff {x : Except Failure α} {f : α → β} {b : β} :
    x.map f = .ok b ↔ ∃ a, x = .ok a ∧ f a = b := by
  cases x <;> simp [Except.map]

/-- A text is read from a text alone. -/
theorem text_eq_ok_iff {j : Json} {s : String} : text r j = .ok s ↔ j = .str s := by
  cases j <;> simp [text, refuse]

/-- The first of two types counts wherever it can be read, and the second one elsewhere. -/
theorem either_eq_ok_iff {name : String} {first second : Decoder α} {j : Json} {a : α} :
    either name first second r j = .ok a ↔
      first .buffered j = .ok a ∨
        (∀ b, first .buffered j ≠ .ok b) ∧ second .buffered j = .ok a := by
  rw [either]
  cases first .buffered j with
  | ok value => simp
  | error failure => cases second .buffered j <;> simp

end PageScript.Record
