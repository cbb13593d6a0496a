import PageScript.Proofs.Record.Recovers
import PageScript.Yaml.Shape

/-!
# Sections of a document

A section is a mapping whose keys are names. What is read of it are the entries whose names have a
shape, in their order, and nothing else: so a name that is given one value is a field of that value,
a name that is given none is no field, and the names without a shape do not count.

* `filter_readEntries?` — what is read under a name is what stands there;
* `Gives` — a name is given a value, or is left out;
* `exists_read?_section`, `Gives.recovers` — a record with fields that may be absent is read from a
  section as the values that are given and the fallbacks of the others;
* `Spells` — a node is written for a value, whatever the style of its scalars is.
-/

namespace PageScript.Yaml

open Record (Decoder Expectation Fields field)

variable {α : Type} {name : String} {shape : Shape} {shapes : List (String × Shape)} {node : Node}
  {entries : List (Node × Node)} {fields : List (String × Json)}

/-! ### Entries by name -/

/-- The nodes that stand under a name. -/
def valuesOf (name : String) (entries : List (Node × Node)) : List Node :=
  entries.filterMap fun entry => if keyText? entry.1 = some name then some entry.2 else none

/-- Every key is a name. -/
def Named (entries : List (Node × Node)) : Prop :=
  ∀ entry ∈ entries, ∃ name, keyText? entry.1 = some name

/-- A name is given a value in the one node that stands under it, or is left out. -/
def Gives (entries : List (Node × Node)) (name : String) (Is : Node → α → Prop) : Option α → Prop
  | some a => ∃ node, valuesOf name entries = [node] ∧ Is node a
  | none => valuesOf name entries = []

/-- A node is a section with entries of a kind. -/
def IsSection (node : Node) (P : List (Node × Node) → Prop) : Prop :=
  ∃ entries, entries? node = some entries ∧ Named entries ∧ P entries

/-- The shape of a name. -/
def shapeOf? (name : String) (shapes : List (String × Shape)) : Option Shape :=
  (shapes.find? fun entry => entry.1 = name).map Prod.snd

/-- The values under a name, entry by entry. -/
theorem valuesOf_cons {key value : Node} :
    valuesOf name ((key, value) :: entries) =
      if keyText? key = some name then value :: valuesOf name entries
      else valuesOf name entries := by
  unfold valuesOf
  split_ifs with h <;> simp [h]

/-- A section is read by its entries, in the order of its shapes. -/
theorem read?_section :
    read? node (.section shapes) =
      (entries? node).bind fun entries => (readEntries? shapes entries).map .obj := by
  rw [read?]

/-- An entry is read as the shape of its name, or passed over if its name has none. -/
theorem readEntries?_cons {key value : Node} (hkey : keyText? key = some name) :
    readEntries? shapes ((key, value) :: entries) =
      match shapeOf? name shapes with
      | none => readEntries? shapes entries
      | some shape => do
        let j ← read? value shape
        return (name, j) :: (← readEntries? shapes entries) := by
  rw [readEntries?, hkey]
  simp only [shapeOf?, bind, Option.bind]
  split
  · rename_i h
    simp [h]
  · rename_i name' shape h
    simp [h]

/-- The fields of a name are read from the nodes that stand under it, each as the shape of the name;
a name without a shape has none. -/
theorem filter_readEntries? (hread : readEntries? shapes entries = some fields) (name : String) :
    (fields.filter fun field => field.1 = name).map (fun field => some field.2) =
      (shapeOf? name shapes).elim [] fun shape =>
        (valuesOf name entries).map fun node => read? node shape := by
  induction entries generalizing fields with
  | nil =>
    rw [readEntries?, Option.some.injEq] at hread
    cases shapeOf? name shapes <;> simp [← hread, valuesOf]
  | cons entry rest ih =>
    obtain ⟨key, value⟩ := entry
    obtain ⟨keyName, hkey⟩ : ∃ keyName, keyText? key = some keyName := by
      cases hkey : keyText? key with
      | none => simp [readEntries?, hkey] at hread
      | some keyName => exact ⟨keyName, rfl⟩
    rw [readEntries?_cons hkey] at hread
    rw [valuesOf_cons, hkey]
    -- The first entry counts under its own name only, and only if that has a shape.
    cases hshape : shapeOf? keyName shapes with
    | none =>
      rw [hshape] at hread
      rw [ih hread]
      by_cases hname : keyName = name
      · subst hname
        simp [hshape]
      · simp [hname]
    | some shape =>
      simp only [hshape, Option.bind_eq_bind, Option.bind_eq_some_iff] at hread
      obtain ⟨j, hj, more, hmore, hfields⟩ := hread
      obtain rfl : (keyName, j) :: more = fields := by simpa using hfields
      by_cases hname : keyName = name
      · subst hname
        have hmore' := ih hmore
        rw [hshape] at hmore'
        simpa [hshape, hj] using hmore'
      · simp [hname, ih hmore]

/-- Entries are read if their keys are names, and every node under a name with a shape is read. -/
theorem exists_readEntries? (hnamed : Named entries)
    (hread : ∀ name shape, shapeOf? name shapes = some shape →
      ∀ node ∈ valuesOf name entries, ∃ j, read? node shape = some j) :
    ∃ fields, readEntries? shapes entries = some fields := by
  induction entries with
  | nil => exact ⟨[], by rw [readEntries?]⟩
  | cons entry rest ih =>
    obtain ⟨key, value⟩ := entry
    obtain ⟨⟨keyName, hkey⟩, hnamed⟩ := List.forall_mem_cons.mp hnamed
    have hrest : ∀ name shape, shapeOf? name shapes = some shape →
        ∀ node ∈ valuesOf name rest, ∃ j, read? node shape = some j := by
      intro name shape hshape node hnode
      refine hread name shape hshape node ?_
      rw [valuesOf_cons]
      split_ifs
      · exact List.mem_cons_of_mem _ hnode
      · exact hnode
    obtain ⟨fields, hfields⟩ := ih hnamed hrest
    rw [readEntries?_cons hkey]
    -- An entry without a shape is passed over, and one with a shape has a value that is read.
    cases hshape : shapeOf? keyName shapes with
    | none => exact ⟨fields, hfields⟩
    | some shape =>
      have hvalue : value ∈ valuesOf keyName ((key, value) :: rest) := by
        rw [valuesOf_cons, if_pos hkey]
        exact List.mem_cons_self
      obtain ⟨j, hj⟩ := hread keyName shape hshape value hvalue
      exact ⟨(keyName, j) :: fields, by simp [hj, hfields]⟩

/-- No two fields have one name if no name with a shape has two nodes. -/
theorem nodup_of_readEntries? (hread : readEntries? shapes entries = some fields)
    (honce : ∀ name shape, shapeOf? name shapes = some shape →
      (valuesOf name entries).length ≤ 1) : (fields.map Prod.fst).Nodup := by
  rw [List.nodup_iff_count_le_one]
  intro name
  have hcount : (fields.map Prod.fst).count name =
      (fields.filter fun field => field.1 = name).length := by
    rw [List.count_eq_countP, List.countP_map, List.countP_eq_length_filter]
    rfl
  -- There are as many fields of a name as nodes under it, and none if it has no shape.
  have hfilter := congrArg List.length (filter_readEntries? hread name)
  rw [List.length_map] at hfilter
  rw [hcount, hfilter]
  cases hshape : shapeOf? name shapes with
  | none => simp
  | some shape => simpa using honce name shape hshape

/-! ### Fields of a section -/

variable {β : Type} {d : Decoder α} {Is : Node → α → Prop} {value : Option α}

/-- A node of a value is read as a shape, and decoded as the value. -/
def ReadsAs (shape : Shape) (d : Decoder α) (Is : Node → α → Prop) : Prop :=
  ∀ node a, Is node a → ∃ j, read? node shape = some j ∧ d.Recovers j a

/-- Fields of some names are read as `a` from what is read of the entries, whatever other names
have a shape. -/
structure Takes (fields : Fields α) (shapes : List (String × Shape))
    (entries : List (Node × Node)) (a : α) : Prop where
  once : ∀ entry ∈ shapes, (valuesOf entry.1 entries).length ≤ 1
  isRead : ∀ entry ∈ shapes, ∀ node ∈ valuesOf entry.1 entries, ∃ j, read? node entry.2 = some j
  recovers : ∀ {all read}, (∀ entry ∈ shapes, shapeOf? entry.1 all = some entry.2) →
    readEntries? all entries = some read → fields.Recovers read a

/-- A name that is given a value is a field of that value, and one that is left out has its
fallback. -/
theorem Gives.takes (h : Gives entries name Is value) (hreads : ReadsAs shape d Is) (fallback : α) :
    Takes (field name d (some fallback)) [(name, shape)] entries (value.getD fallback) := by
  cases value with
  | none =>
    have hvalues : valuesOf name entries = [] := h
    refine ⟨by simp [hvalues], by simp [hvalues], fun hshape hread => ?_⟩
    refine Record.recovers_field_absent fun hmem => ?_
    obtain ⟨entry, hentry, hname⟩ := List.mem_map.mp hmem
    have hfilter := filter_readEntries? hread name
    rw [hshape _ List.mem_cons_self, Option.elim, hvalues, List.map_nil, List.map_eq_nil_iff,
      List.filter_eq_nil_iff] at hfilter
    exact hfilter entry hentry (by simpa using hname)
  | some a =>
    obtain ⟨node, hvalues, hnode⟩ := h
    obtain ⟨j, hj, hrecovers⟩ := hreads node a hnode
    refine ⟨by simp [hvalues], by simp [hvalues, hj], fun hshape hread => ?_⟩
    refine Record.recovers_field ?_ hrecovers
    -- What is read under the name is this one value, so it is among the fields.
    have hfilter := filter_readEntries? hread name
    rw [hshape _ List.mem_cons_self, Option.elim, hvalues, List.map_singleton, hj,
      List.map_eq_singleton_iff] at hfilter
    obtain ⟨entry, hentry, hvalue⟩ := hfilter
    obtain ⟨hmem, hname⟩ := List.mem_filter.mp (hentry ▸ List.mem_singleton_self entry)
    obtain rfl : entry = (name, j) := Prod.ext (by simpa using hname) (by simpa using hvalue)
    exact hmem

/-- What is made of a value is given with it. -/
theorem Gives.map (h : Gives entries name Is value) (f : α → β) :
    Gives entries name (fun node b => ∃ a, Is node a ∧ f a = b) (value.map f) := by
  cases value with
  | none => exact h
  | some a =>
    obtain ⟨node, hvalues, hnode⟩ := h
    exact ⟨node, hvalues, a, hnode, rfl⟩

/-- What is made of fields is taken with them. -/
theorem Takes.map {fields : Fields β} {b : β} (h : Takes fields shapes entries b) (f : β → α) :
    Takes (f <$> fields) shapes entries (f b) where
  once := h.once
  isRead := h.isRead
  recovers hshapes hread := (h.recovers hshapes hread).map f

/-- Two groups of fields are taken from the same entries, shape by shape. -/
theorem Takes.seq {fs : Fields (β → α)} {fields : Fields β} {f : β → α} {b : β}
    {shapes' : List (String × Shape)} (hf : Takes fs shapes entries f)
    (h : Takes fields shapes' entries b) :
    Takes (fs <*> fields) (shapes ++ shapes') entries (f b) where
  once := List.forall_mem_append.mpr ⟨hf.once, h.once⟩
  isRead := List.forall_mem_append.mpr ⟨hf.isRead, h.isRead⟩
  recovers hshapes hread :=
    have hshapes := List.forall_mem_append.mp hshapes
    (hf.recovers hshapes.1 hread).seq (h.recovers hshapes.2 hread)

/-- Among shapes of distinct names each one is the shape of its name. -/
theorem shapeOf?_eq_some_iff (hnodup : (shapes.map Prod.fst).Nodup) :
    shapeOf? name shapes = some shape ↔ (name, shape) ∈ shapes := by
  rw [← Record.choose_eq_ok_iff hnodup, shapeOf?, Record.choose]
  cases shapes.find? fun entry => decide (entry.1 = name) <;> simp

/-- A record is read from a section that its fields are read from. -/
theorem Takes.record {fields : Fields α} {a : α} (h : Takes fields shapes entries a)
    (hnodup : (shapes.map Prod.fst).Nodup) (hentries : entries? node = some entries)
    (hnamed : Named entries) (expectation : Expectation) :
    ∃ j, read? node (.section shapes) = some j ∧
      (Record.record expectation fields).Recovers j a := by
  have hmem : ∀ {name shape}, shapeOf? name shapes = some shape → (name, shape) ∈ shapes :=
    (shapeOf?_eq_some_iff hnodup).mp
  obtain ⟨read, hread⟩ : ∃ read, readEntries? shapes entries = some read :=
    exists_readEntries? hnamed fun name shape hshape => h.isRead _ (hmem hshape)
  have hrecovers : fields.Recovers read a :=
    h.recovers (fun _ hentry => (shapeOf?_eq_some_iff hnodup).mpr hentry) hread
  have hdistinct : (read.map Prod.fst).Nodup :=
    nodup_of_readEntries? hread fun name shape hshape => h.once _ (hmem hshape)
  exact ⟨.obj read, by rw [read?_section, hentries, Option.bind_some, hread]; rfl,
    hrecovers.record hdistinct expectation⟩

/-! ### Scalars -/

/-- A node is a whole number. -/
def IsNumber (node : Node) (n : Nat) : Prop :=
  read? node .number = some (.int n)

/-- A node is a truth value. -/
def IsTruth (node : Node) (b : Bool) : Prop :=
  read? node .truth = some (.bool b)

/-- A node is a text or nothing. -/
def IsPossibleText (node : Node) (s : Option String) : Prop :=
  read? node (.possible .text) = some (.ofText? s)

/-- A node is a whole number or nothing. -/
def IsPossibleNumber (node : Node) (n : Option Nat) : Prop :=
  read? node (.possible .number) = some (.ofNat? n)

/-- A word of sixteen bits is read as a number. -/
theorem readsAs_word16 :
    ReadsAs .number Record.word16 (fun node (n : UInt16) => IsNumber node n.toNat) :=
  fun _ n h => ⟨_, h, Record.recovers_word16 n⟩

/-- A word of sixty-four bits is read as a number. -/
theorem readsAs_word64 :
    ReadsAs .number Record.word64 (fun node (n : UInt64) => IsNumber node n.toNat) :=
  fun _ n h => ⟨_, h, Record.recovers_word64 n⟩

/-- A size is read as a number. -/
theorem readsAs_size64 :
    ReadsAs .number Record.size64 (fun node (n : UInt64) => IsNumber node n.toNat) :=
  fun _ n h => ⟨_, h, Record.recovers_size64 n⟩

/-- A truth value is read as one. -/
theorem readsAs_truth : ReadsAs .truth Record.truth IsTruth :=
  fun _ b h => ⟨_, h, Record.recovers_truth b⟩

/-- A number that may be absent is read as one. -/
theorem readsAs_possible_word64 :
    ReadsAs (.possible .number) (Record.optional Record.word64)
      (fun node (n : Option UInt64) => IsPossibleNumber node (n.map UInt64.toNat)) :=
  fun _ n h => ⟨_, h, Record.recovers_optional_ofNat? n⟩

/-! ### Nodes that are written for a value -/

mutual

/-- A node that is written for a value, so that it is read as the value by whoever may expect
nothing in its place as well. -/
inductive Spells : Node → Json → Prop
  | null {node : Node} (h : isThere? node = some false) : Spells node .null
  | bool {node : Node} {b : Bool} (h : read? node (.possible .truth) = some (.bool b)) :
      Spells node (.bool b)
  | int {node : Node} {n : Nat} (h : read? node (.possible .number) = some (.int n)) :
      Spells node (.int n)
  | str {node : Node} {s : String} (h : read? node (.possible .text) = some (.str s)) :
      Spells node (.str s)
  | obj {entries : List (Node × Node)} {fields : List (String × Json)}
      (h : SpellsEntries entries fields) : Spells (.mapping entries) (.obj fields)

/-- Entries that are written for the fields of a value, in their order. -/
inductive SpellsEntries : List (Node × Node) → List (String × Json) → Prop
  | nil : SpellsEntries [] []
  | cons {key value : Node} {name : String} {j : Json} {entries : List (Node × Node)}
      {fields : List (String × Json)} (hkey : keyText? key = some name) (hvalue : Spells value j)
      (h : SpellsEntries entries fields) :
      SpellsEntries ((key, value) :: entries) ((name, j) :: fields)

end

variable {j : Json}

/-- The entries of a section have names. -/
theorem SpellsEntries.named (h : SpellsEntries entries fields) : Named entries := by
  induction entries generalizing fields with
  | nil => exact List.forall_mem_nil _
  | cons entry rest ih =>
    cases h with
    | cons hkey _ h => exact List.forall_mem_cons.mpr ⟨⟨_, hkey⟩, ih h⟩

/-- A name that is not spelled has no values. -/
private theorem SpellsEntries.valuesOf_eq_nil (h : SpellsEntries entries fields)
    (hname : name ∉ fields.map Prod.fst) : valuesOf name entries = [] := by
  induction entries generalizing fields with
  | nil => rfl
  | cons entry rest ih =>
    cases h with
    | cons hkey _ h =>
      rw [List.map_cons, List.mem_cons, not_or] at hname
      rw [valuesOf_cons, hkey, if_neg (by simpa using Ne.symm hname.1), ih h hname.2]

/-- Under the name of a field stands one node, which is written for its value. -/
theorem SpellsEntries.exists_valuesOf_eq (h : SpellsEntries entries fields)
    (hnodup : (fields.map Prod.fst).Nodup) (hmem : (name, j) ∈ fields) :
    ∃ node, valuesOf name entries = [node] ∧ Spells node j := by
  induction entries generalizing fields with
  | nil =>
    cases h
    exact absurd hmem List.not_mem_nil
  | cons entry rest ih =>
    cases h with
    | @cons key value keyName j' _ more hkey hvalue h =>
      obtain ⟨hkeyName, hnodup⟩ := List.nodup_cons.mp hnodup
      rw [valuesOf_cons, hkey]
      -- The name is spelled by this entry and no later one, or by a later one and not by this.
      rcases List.mem_cons.mp hmem with heq | hmem
      · obtain ⟨rfl, rfl⟩ := Prod.mk.inj heq
        rw [if_pos rfl, h.valuesOf_eq_nil hkeyName]
        exact ⟨value, rfl, hvalue⟩
      · have hne : keyName ≠ name := fun heq =>
          hkeyName (heq ▸ List.mem_map.mpr ⟨(name, j), hmem, rfl⟩)
        rw [if_neg (by simpa using hne)]
        exact ih h hnodup hmem

/-- A field that is spelled is given its value. -/
theorem SpellsEntries.gives {Is : Node → α → Prop} {a : α} (h : SpellsEntries entries fields)
    (hnodup : (fields.map Prod.fst).Nodup) (hmem : (name, j) ∈ fields)
    (hIs : ∀ {node}, Spells node j → Is node a) : Gives entries name Is (some a) := by
  obtain ⟨node, hvalues, hnode⟩ := h.exists_valuesOf_eq hnodup hmem
  exact ⟨node, hvalues, hIs hnode⟩

/-- What is written for a record is a section of its fields. -/
theorem Spells.isSection {P : List (Node × Node) → Prop} (h : Spells node (.obj fields))
    (hP : ∀ {entries}, SpellsEntries entries fields → P entries) : IsSection node P := by
  cases h with
  | obj h => exact ⟨_, rfl, h.named, hP h⟩

/-- What may be absent and is not is read by its shape. -/
theorem read?_of_possible (h : read? node (.possible shape) = some j) (hj : j ≠ .null) :
    read? node shape = some j := by
  rw [read?, Option.bind_eq_some_iff] at h
  obtain ⟨present, -, h⟩ := h
  cases present with
  | true => simpa using h
  | false => exact absurd (Option.some.inj h).symm hj

/-- What spells a number is one. -/
theorem Spells.isNumber {n : Nat} (h : Spells node (.int n)) : IsNumber node n := by
  generalize hj : Json.int n = j at h
  cases h with
  | int h =>
    rw [← hj] at h
    exact read?_of_possible h nofun
  | _ => cases hj

/-- What spells a truth value is one. -/
theorem Spells.isTruth {b : Bool} (h : Spells node (.bool b)) : IsTruth node b := by
  cases h with
  | bool h => exact read?_of_possible h nofun

/-- What spells a text that may be absent is one. -/
theorem Spells.isPossibleText {s : Option String} (h : Spells node (.ofText? s)) :
    IsPossibleText node s := by
  cases s with
  | none =>
    cases h with
    | null h => rw [IsPossibleText, read?, h]; rfl
  | some s =>
    cases h with
    | str h => exact h

/-- What spells a number that may be absent is one. -/
theorem Spells.isPossibleNumber {n : Option Nat} (h : Spells node (.ofNat? n)) :
    IsPossibleNumber node n := by
  cases n with
  | none =>
    cases h with
    | null h => rw [IsPossibleNumber, read?, h]; rfl
  | some n =>
    generalize hj : Json.ofNat? (some n) = j at h
    cases h with
    | int h => rwa [← hj] at h
    | _ => cases hj

end PageScript.Yaml
