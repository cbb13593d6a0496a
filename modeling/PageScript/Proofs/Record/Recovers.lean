import PageScript.Proofs.Json.Arranged
import PageScript.Proofs.Json.Reader
import PageScript.Proofs.Record.Decoder
import PageScript.Record.Text

/-!
# Values that read back

A decoder recovers a value from its record if it reads the record as that value in whatever order
the entries of its objects stand, and whether or not the record was put aside before it is read.
One lemma for each way to build a decoder says when that is so, so that what a type's decoder
recovers is put together as the decoder is.

* `Decoder.Recovers`, `Fields.Recovers` — the two relations;
* `Fields.Recovers.map`, `Fields.Recovers.seq`, `Fields.Recovers.record` — records;
* `Decoder.Recovers.variant`, `Decoder.Recovers.tagged`, `Decoder.Recovers.adjacent`,
  `Decoder.Recovers.either_first`, `Decoder.Recovers.either_second` — choices;
* `Decoder.ReadsBack`, `Decoder.ofText_compact` — the forms in which a record is met.
-/

namespace PageScript.Record

open Json

variable {α β : Type}

/-- A decoder reads every arrangement of a value as `a`. -/
def Decoder.Recovers (d : Decoder α) (j : Json) (a : α) : Prop :=
  ∀ r j', Arranged j j' → d r j' = .ok a

/-- Fields are read as `a` from the entries of every arrangement of an object with distinct keys. -/
def Fields.Recovers (fields : Fields α) (entries : List (String × Json)) (a : α) : Prop :=
  ∀ r i entries', (entries'.map Prod.fst).Nodup → Arranged (.obj entries) (.obj entries') →
    fields.ofEntries r i entries' = .read a

variable {d : Decoder α} {j : Json} {a : α} {name tag content : String}
  {entries entries' : List (String × Json)}

/-! ### Plain values -/

/-- A text is read back. -/
theorem recovers_text (s : String) : Decoder.Recovers text (.str s) s := by
  intro r j' h
  cases h
  rfl

/-- A truth value is read back. -/
theorem recovers_truth (b : Bool) : Decoder.Recovers truth (.bool b) b := by
  intro r j' h
  cases h
  rfl

/-- A number is read back. -/
theorem recovers_number (x : Binary64) : Decoder.Recovers number (.float x) x := by
  intro r j' h
  cases h
  rfl

/-- An integer in the range is read back. -/
theorem recovers_integer {type : String} {least greatest : Int} {make : Int → α} {n : Int}
    (h : least ≤ n ∧ n ≤ greatest) :
    Decoder.Recovers (integer type least greatest make) (.int n) (make n) := by
  intro r j' harranged
  cases harranged
  rw [integer, if_pos h]

/-- A natural number in the range of a type reads back. -/
theorem recovers_natural {type : String} {greatest : Nat} {make : Nat → α} {n : Nat}
    (h : n ≤ greatest) :
    Decoder.Recovers (integer type 0 greatest fun n => make n.toNat) (.int n) (make n) :=
  recovers_integer ⟨Int.natCast_nonneg n, Int.ofNat_le.mpr h⟩

/-- A word of sixteen bits is read back. -/
theorem recovers_word16 (n : UInt16) : Decoder.Recovers word16 (.int n.toNat) n := by
  have h : Decoder.Recovers word16 (.int n.toNat) (UInt16.ofNat n.toNat) :=
    recovers_natural (Nat.le_of_lt_succ n.toNat_lt)
  rwa [UInt16.ofNat_toNat] at h

/-- A word of thirty-two bits is read back. -/
theorem recovers_word32 (n : UInt32) : Decoder.Recovers word32 (.int n.toNat) n := by
  have h : Decoder.Recovers word32 (.int n.toNat) (UInt32.ofNat n.toNat) :=
    recovers_natural (Nat.le_of_lt_succ n.toNat_lt)
  rwa [UInt32.ofNat_toNat] at h

/-- A word of sixty-four bits is read back. -/
theorem recovers_word64 (n : UInt64) : Decoder.Recovers word64 (.int n.toNat) n := by
  have h : Decoder.Recovers word64 (.int n.toNat) (UInt64.ofNat n.toNat) :=
    recovers_natural (Nat.le_of_lt_succ n.toNat_lt)
  rwa [UInt64.ofNat_toNat] at h

/-- A size is read back. -/
theorem recovers_size64 (n : UInt64) : Decoder.Recovers size64 (.int n.toNat) n := by
  have h : Decoder.Recovers size64 (.int n.toNat) (UInt64.ofNat n.toNat) :=
    recovers_natural (Nat.le_of_lt_succ n.toNat_lt)
  rwa [UInt64.ofNat_toNat] at h

/-- A signed integer is read back. -/
theorem recovers_int64 (n : Int64) : Decoder.Recovers int64 (.int n.toInt) n := by
  have hmake : Decoder.Recovers int64 (.int n.toInt) _ :=
    recovers_integer ⟨n.le_toInt, Int.le_of_lt_add_one n.toInt_lt⟩
  rwa [Int64.ofInt_toInt] at hmake

/-- A free value reads back if it is in canonical order. -/
theorem recovers_free (h : j.IsCanonical) : Decoder.Recovers free j j := by
  intro r j' harranged
  rw [free, harranged.canonical_eq h]

/-- What is made of a value is read back if the value is. -/
theorem Decoder.Recovers.map (h : d.Recovers j a) (f : α → β) :
    Decoder.Recovers (fun r j => (d r j).map f) j (f a) := by
  intro r j' harranged
  change (d r j').map f = _
  rw [h r j' harranged]
  rfl

/-- What is absent is read back from the empty value. -/
theorem recovers_optional_none : (optional d).Recovers .null none := by
  intro r j' h
  cases h
  rfl

/-- What may be absent is read back if it is there and is not written as the empty value. -/
theorem Decoder.Recovers.optional (h : d.Recovers j a) (hj : j ≠ .null) :
    (Record.optional d).Recovers j (some a) := by
  intro r j' harranged
  have hj' : j' ≠ .null := by
    rintro rfl
    cases harranged
    exact hj rfl
  exact (optional_eq_ok_iff hj').mpr ⟨a, h r j' harranged, rfl⟩

/-- The items of an array are read one by one. -/
theorem itemsFrom_eq_ok {make : α → Json} {values : List α} {items : List Json}
    (h : ∀ value ∈ values, d.Recovers (make value) value)
    (harranged : ArrangedItems (values.map make) items) (r : Reading) (i : Nat) :
    itemsFrom d r i items = .ok values := by
  induction values generalizing items i with
  | nil =>
    cases harranged
    rw [itemsFrom]
  | cons value rest ih =>
    obtain ⟨hvalue, hrest⟩ := List.forall_mem_cons.mp h
    cases harranged with
    | cons hitem hitems =>
      rw [itemsFrom, hvalue r _ hitem, ih hrest hitems]
      rfl

/-- A text that may be absent is read back. -/
theorem recovers_optional_ofText? (s : Option String) :
    (optional text).Recovers (Json.ofText? s) s := by
  cases s with
  | none => exact recovers_optional_none
  | some s => exact (recovers_text s).optional nofun

/-- A number that may be absent is read back. -/
theorem recovers_optional_ofNat? (n : Option UInt64) :
    (optional word64).Recovers (Json.ofNat? (n.map UInt64.toNat)) n := by
  cases n with
  | none => exact recovers_optional_none
  | some n => exact (recovers_word64 n).optional nofun

/-- A list is read back if each of its values is. -/
theorem recovers_list {make : α → Json} {values : List α}
    (h : ∀ value ∈ values, d.Recovers (make value) value) :
    (list d).Recovers (.arr (values.map make)) values := by
  intro r j' harranged
  obtain ⟨items, rfl, hitems⟩ := harranged.exists_eq_arr
  exact itemsFrom_eq_ok h hitems r 0

/-! ### Occurrences of a name -/

/-- A name that no entry has occurs nowhere. -/
theorem filter_zipIdx_eq_nil (h : name ∉ entries.map Prod.fst) (n : Nat) :
    (entries.zipIdx n).filter (fun entry => decide (entry.1.1 = name)) = [] := by
  rw [List.filter_eq_nil_iff]
  rintro ⟨entry, index⟩ hmem
  have hne : entry.1 ≠ name := fun heq =>
    h (List.mem_map.mpr ⟨entry, List.fst_mem_of_mem_zipIdx hmem, heq⟩)
  simpa using hne

/-- A name that is not the key of an entry occurs nowhere. -/
theorem occurrences_eq_none (h : name ∉ entries.map Prod.fst) :
    occurrences name entries = (none, none) := by
  simp [occurrences, filter_zipIdx_eq_nil h]

/-- Among entries of distinct keys a name occurs once. -/
theorem exists_occurrences_eq (hnodup : (entries.map Prod.fst).Nodup) (hmem : (name, j) ∈ entries) :
    ∃ k, occurrences name entries = (some (k, j), none) := by
  obtain ⟨before, after, rfl⟩ := List.append_of_mem hmem
  rw [List.map_append, List.map_cons, List.nodup_middle, List.nodup_cons, List.mem_append,
    not_or] at hnodup
  obtain ⟨⟨hbefore, hafter⟩, -⟩ := hnodup
  refine ⟨before.length, ?_⟩
  simp [occurrences, List.zipIdx_append, List.zipIdx_cons, filter_zipIdx_eq_nil hbefore,
    filter_zipIdx_eq_nil hafter]

/-! ### Fields -/

/-- A field is read back from the entry with its name. -/
theorem recovers_field {fallback : Option α} (hmem : (name, j) ∈ entries) (h : d.Recovers j a) :
    (field name d fallback).Recovers entries a := by
  intro r i entries' hnodup harranged
  obtain ⟨j', hvalue, hmem'⟩ := harranged.exists_mem hmem
  obtain ⟨k, hoccurs⟩ := exists_occurrences_eq hnodup hmem'
  exact ofEntries_field_eq_read_iff.mpr (.inl ⟨k, j', hoccurs, h r j' hvalue⟩)

/-- A field that is absent has its fallback. -/
theorem recovers_field_absent (hname : name ∉ entries.map Prod.fst) :
    (field name d (some a)).Recovers entries a := by
  intro r i entries' _ harranged
  have hname' : name ∉ entries'.map Prod.fst := fun hmem =>
    hname (harranged.map_fst_perm.mem_iff.mp hmem)
  refine ofEntries_field_eq_read_iff.mpr (.inr ⟨?_, rfl⟩)
  rw [occurrences_eq_none hname']

/-- What is made of fields is read back if the fields are. -/
theorem Fields.Recovers.map {fields : Fields α} (h : fields.Recovers entries a) (f : α → β) :
    (f <$> fields).Recovers entries (f a) := by
  intro r i entries' hnodup harranged
  exact ofEntries_map_eq_read_iff.mpr ⟨a, h r i entries' hnodup harranged, rfl⟩

/-- Two groups of fields are read back from the same entries. -/
theorem Fields.Recovers.seq {fs : Fields (α → β)} {fields : Fields α} {f : α → β}
    (hf : fs.Recovers entries f) (h : fields.Recovers entries a) :
    (fs <*> fields).Recovers entries (f a) := by
  intro r i entries' hnodup harranged
  exact ofEntries_seq_eq_read_iff.mpr ⟨f, a, hf r i entries' hnodup harranged,
    h r (i + fs.size) entries' hnodup harranged, rfl⟩

/-- A record is read back if its fields are and no key is there twice. -/
theorem Fields.Recovers.record {fields : Fields α} (h : fields.Recovers entries a)
    (hnodup : (entries.map Prod.fst).Nodup) (shape : Expectation) :
    (Record.record shape fields).Recovers (.obj entries) a := by
  intro r j' harranged
  obtain ⟨entries', rfl, harranged⟩ := harranged.exists_eq_obj
  exact record_obj_eq_ok_iff.mpr
    (h r 0 entries' (harranged.map_fst_perm.nodup_iff.mpr hnodup) harranged)

/-- A last field that is left out when it is absent is read as what it was. -/
theorem Fields.Recovers.record_fieldIfPresent {fields : Fields (Option String → α)}
    {shape : Expectation} (f : Option String → α) (s : Option String)
    (h : fields.Recovers (entries ++ fieldIfPresent name s) f)
    (hnodup : (name :: entries.map Prod.fst).Nodup) :
    (Record.record shape (fields <*> possible name text)).Recovers
      (.obj (entries ++ fieldIfPresent name s)) (f s) := by
  -- The field is absent, or the last of the record.
  cases s with
  | none =>
    rw [fieldIfPresent, List.append_nil] at h ⊢
    have hlast : (possible name text).Recovers entries none :=
      recovers_field_absent (List.nodup_cons.mp hnodup).1
    exact (h.seq hlast).record hnodup.of_cons shape
  | some s =>
    rw [fieldIfPresent] at h ⊢
    have hlast : (possible name text).Recovers (entries ++ [(name, .str s)]) (some s) :=
      recovers_field (List.mem_append_right _ (.head _)) ((recovers_text s).optional (by simp))
    refine (h.seq hlast).record ?_ shape
    rw [List.map_append]
    exact (List.perm_append_singleton name _).nodup_iff.mpr hnodup

/-! ### Records of few fields -/

section Few

variable {γ δ : Type} {d' : Decoder β} {d'' : Decoder γ} {j' j'' : Json} {b : β} {c : γ}
  {name' name'' : String} {shape : Expectation}

/-- A record of one field is read back. -/
theorem recovers_record_one {fallback : Option α} {make : α → β} (h : d.Recovers j a) :
    (record shape (make <$> field name d fallback)).Recovers (.obj [(name, j)]) (make a) :=
  ((recovers_field (.head _) h).map make).record (by simp) shape

/-- A record of two fields is read back. -/
theorem recovers_record_two {fallback : Option α} {fallback' : Option β} {make : α → β → γ}
    (hname : [name, name'].Nodup) (h : d.Recovers j a) (h' : d'.Recovers j' b) :
    (record shape (make <$> field name d fallback <*> field name' d' fallback')).Recovers
      (.obj [(name, j), (name', j')]) (make a b) := by
  apply Fields.Recovers.record
  · exact ((recovers_field (.head _) h).map make).seq (recovers_field (.tail _ (.head _)) h')
  · exact hname

/-- A record of three fields is read back. -/
theorem recovers_record_three {fallback : Option α} {fallback' : Option β} {fallback'' : Option γ}
    {make : α → β → γ → δ} (hname : [name, name', name''].Nodup) (h : d.Recovers j a)
    (h' : d'.Recovers j' b) (h'' : d''.Recovers j'' c) :
    (record shape (make <$> field name d fallback <*> field name' d' fallback'
        <*> field name'' d'' fallback'')).Recovers
      (.obj [(name, j), (name', j'), (name'', j'')]) (make a b c) := by
  apply Fields.Recovers.record
  · exact (((recovers_field (.head _) h).map make).seq (recovers_field (.tail _ (.head _)) h')).seq
      (recovers_field (.tail _ (.tail _ (.head _))) h'')
  · exact hname

end Few

/-! ### Choices -/

/-- A record without fields is read back from any object. -/
theorem recovers_noFields (a : α) : (noFields a).Recovers (.obj entries) a := by
  intro r j' harranged
  obtain ⟨entries', rfl, -⟩ := harranged.exists_eq_obj
  rfl

/-- One of some choices is read back from its name. -/
theorem recovers_oneOf {choices : List (String × α)}
    (h : choose (choices.map fun choice => (choice.1, Variant.plain choice.2)) name =
      .ok (.plain a)) :
    (oneOf choices).Recovers (.str name) a := by
  intro r j' harranged
  cases harranged
  rw [oneOf, variant, h]
  rfl

/-- A choice that holds a value is an object of the one entry. -/
theorem Decoder.Recovers.variant {variants : List (String × Variant α)} (h : d.Recovers j a)
    (hname : choose variants name = .ok (.holding d)) :
    (Record.variant variants).Recovers (.obj [(name, j)]) a := by
  intro r j' harranged
  cases harranged with
  | obj hvalues hperm =>
    cases hvalues with
    | cons hvalue hrest =>
      cases hrest
      rw [List.perm_singleton.mp hperm.symm, Record.variant, hname]
      change (d r _).mapError _ = _
      rw [h r _ hvalue]
      rfl

/-- A tagged choice is read wherever in the object its tag stands. -/
theorem Decoder.Recovers.tagged {variants : List (String × Decoder α)} {kind : String}
    (h : d.Recovers (.obj entries) a) (hkind : choose variants kind = .ok d)
    (hnodup : (tag :: entries.map Prod.fst).Nodup) (name : String) :
    (Record.tagged name tag variants).Recovers (.obj ((tag, .str kind) :: entries)) a := by
  intro r j' harranged
  obtain ⟨entries', rfl, harranged⟩ := harranged.exists_eq_obj
  have hnodup' : (entries'.map Prod.fst).Nodup := harranged.map_fst_perm.nodup_iff.mpr hnodup
  obtain ⟨kind', hkind', hmem⟩ := harranged.exists_mem List.mem_cons_self
  cases hkind'
  obtain ⟨k, hoccurs⟩ := exists_occurrences_eq hnodup' hmem
  -- What is left when the tag has been taken out is an arrangement of the other entries.
  have hrest : ((tag, Json.str kind) :: entries).filter (fun entry => entry.1 ≠ tag) = entries := by
    rw [List.filter_cons_of_neg (by simp), List.filter_eq_self]
    intro entry hentry
    have hne : entry.1 ≠ tag := fun heq =>
      (List.nodup_cons.mp hnodup).1 (heq ▸ List.mem_map_of_mem hentry)
    simpa using hne
  have harranged' := harranged.filter fun key => key ≠ tag
  rw [hrest] at harranged'
  rw [Record.tagged, hoccurs]
  change (do
    let d ← (tagName variants r (.str kind)).mapError (Failure.within k)
    d.runAside (.obj (entries'.filter fun entry => entry.1 ≠ tag))) = _
  rw [show tagName variants r (.str kind) = .ok d from hkind]
  exact runAside_eq_ok_iff.mpr (h .buffered _ harranged')

/-- A choice of name and content is read in whatever order the two stand. -/
theorem Decoder.Recovers.adjacent {variants : List (String × Decoder α)} {kind : String}
    (h : d.Recovers j a)
    (hkind : choose (variants.map fun choice => (choice.1, Variant.plain choice.2)) kind =
      .ok (.plain d))
    (hne : tag ≠ content) (name : String) :
    (Record.adjacent name tag content variants).Recovers
      (.obj [(tag, .str kind), (content, j)]) a := by
  intro r j' harranged
  obtain ⟨entries', rfl, harranged⟩ := harranged.exists_eq_obj
  have hnodup : (entries'.map Prod.fst).Nodup :=
    harranged.map_fst_perm.nodup_iff.mpr (by simpa using hne)
  obtain ⟨kind', hkind', hmem⟩ := harranged.exists_mem List.mem_cons_self
  cases hkind'
  obtain ⟨k, htag⟩ := exists_occurrences_eq hnodup hmem
  obtain ⟨value, hvalue, hmem⟩ := harranged.exists_mem (List.mem_cons_of_mem _ List.mem_cons_self)
  obtain ⟨n, hcontent⟩ := exists_occurrences_eq hnodup hmem
  have hread : oneOf variants r (.str kind) = .ok d := recovers_oneOf hkind r _ (.str kind)
  rw [Record.adjacent, htag, hcontent]
  simp only [hread, Except.mapError, Except.bind, bind]
  -- The tag comes first and the content is read at once, or the content was put aside.
  split
  · rw [h r value hvalue]
    rfl
  · rw [runAside_eq_ok_iff.mpr (h .buffered value hvalue)]
    rfl

/-- What the first of two decoders reads back is read back. -/
theorem Decoder.Recovers.either_first {first second : Decoder α} (h : first.Recovers j a)
    (name : String) : (either name first second).Recovers j a := by
  intro r j' harranged
  rw [either, h .buffered j' harranged]

/-- The second of two types counts only for what is not of the first one. -/
theorem Decoder.Recovers.either_second {first second : Decoder α} (h : second.Recovers j a)
    (hfirst : ∀ j', Arranged j j' → ∃ e, first .buffered j' = .error e) (name : String) :
    (either name first second).Recovers j a := by
  intro r j' harranged
  obtain ⟨e, he⟩ := hfirst j' harranged
  rw [either, he, h .buffered j' harranged]

/-! ### The forms of a record -/

/-- A decoder reads a record as `a` as it is written, with its keys in ascending order, and with the
entries of its objects in any other order. -/
structure Decoder.ReadsBack (d : Decoder α) (j : Json) (a : α) : Prop where
  written : d.run j = .ok a
  canonical : d.run j.canonical = .ok a
  arranged : ∀ j', Arranged j j' → d.run j' = .ok a

/-- What is read back from all arrangements is read back in each form of its record. -/
theorem Decoder.Recovers.readsBack (h : d.Recovers j a) (hj : Arranged j j.canonical) :
    d.ReadsBack j a where
  written := h .direct j (arranged_refl j)
  canonical := h .direct j.canonical hj
  arranged := h .direct

/-- What a decoder reads a portable value as is also what it reads the text of the value as. -/
theorem Decoder.ofText_compact (hj : j.IsPortable maxDepth) (h : d.run j = .ok a) :
    d.ofText j.compact = .ok a := by
  obtain ⟨doc, hdoc, hraw, hfault⟩ := exists_ofText_compact hj
  rw [Decoder.ofText, hdoc]
  simp only [hraw, h, hfault]
  rfl

/-- What is read from a text is read from the value of the text. -/
theorem Decoder.run_of_ofText_eq_ok {s : String} (h : d.ofText s = .ok a) :
    d.run (Json.Document.ofText s).1.raw = .ok a := by
  rw [Decoder.ofText] at h
  simp only at h
  generalize d.run (Json.Document.ofText s).1.raw = read at h ⊢
  match read with
  | .ok b =>
    simp only at h
    split at h
    · cases h
    · rwa [Except.ok.injEq] at h ⊢
  | .error ⟨cause, some spot⟩ =>
    simp only at h
    split at h <;> cases h
  | .error ⟨cause, none⟩ =>
    simp only at h
    split at h <;> cases h

end PageScript.Record
