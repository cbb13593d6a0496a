import PageScript.Json.Printer
import PageScript.Proofs.Json.Leaves
import PageScript.Proofs.Json.Number

/-!
# Spellings of values

A value may be spelled with any spaces between its tokens; its integers, strings and words are
spelled as they are printed, and its floating-point numbers by any characters that are read as them.
Both layouts of the printer are spellings in this sense, so that what holds of every spelling holds
of both. What they spell is the value with the floating-point numbers that the texts of its own are
read as.

* `Json.Spells` — the characters of a value, with spaces anywhere;
* `Json.spells_compactChars`, `Json.spells_prettyChars` — the two layouts.
-/

namespace PageScript.Json

/-- Characters that may stand between tokens. -/
def IsSpacing (cs : List Char) : Prop :=
  ∀ c ∈ cs, Cursor.isSpace c = true

/-- What precedes an item or a field: spaces, and a comma unless it is the first one. -/
inductive IsLead : Bool → List Char → Prop
  | first {gap : List Char} (hgap : IsSpacing gap) : IsLead true gap
  | next {gap gap' : List Char} (hgap : IsSpacing gap) (hgap' : IsSpacing gap') :
      IsLead false (gap ++ ',' :: gap')

mutual

/-- The characters spell the value. -/
inductive Spells : Json → List Char → Prop
  | null : Spells .null ['n', 'u', 'l', 'l']
  | boolTrue : Spells (.bool true) ['t', 'r', 'u', 'e']
  | boolFalse : Spells (.bool false) ['f', 'a', 'l', 's', 'e']
  | int (n : Int) : Spells (.int n) (intChars n)
  | float {x : Binary64} {cs : List Char} (h : SpellsFloat x cs) : Spells (.float x) cs
  | str (s : String) : Spells (.str s) (stringChars s)
  | arr {items : List Json} {cs : List Char} (h : SpellsItems true items cs) :
      Spells (.arr items) ('[' :: cs)
  | obj {fields : List (String × Json)} {cs : List Char} (h : SpellsFields true fields cs) :
      Spells (.obj fields) (Char.ofNat 0x7B :: cs)

/-- The characters spell items, the first of an array or later ones, and its closing bracket. -/
inductive SpellsItems : Bool → List Json → List Char → Prop
  | close {first : Bool} {gap : List Char} (hgap : IsSpacing gap) :
      SpellsItems first [] (gap ++ [']'])
  | item {first : Bool} {lead cs cs' : List Char} {item : Json} {items : List Json}
      (hlead : IsLead first lead) (h : Spells item cs) (hrest : SpellsItems false items cs') :
      SpellsItems first (item :: items) (lead ++ (cs ++ cs'))

/-- The characters spell fields, the first of an object or later ones, and its closing brace. -/
inductive SpellsFields : Bool → List (String × Json) → List Char → Prop
  | close {first : Bool} {gap : List Char} (hgap : IsSpacing gap) :
      SpellsFields first [] (gap ++ [Char.ofNat 0x7D])
  | field {first : Bool} {lead gap gap' cs cs' : List Char} {key : String} {value : Json}
      {fields : List (String × Json)} (hlead : IsLead first lead) (hgap : IsSpacing gap)
      (hgap' : IsSpacing gap') (h : Spells value cs) (hrest : SpellsFields false fields cs') :
      SpellsFields first ((key, value) :: fields)
        (lead ++ (stringChars key ++ (gap ++ ':' :: (gap' ++ (cs ++ cs')))))

end

/-- The texts of the floating-point numbers of a value are read as the numbers that a function
gives. -/
def ReadsFloatsBy (f : Binary64 → Binary64) (j : Json) : Prop :=
  ∀ x, .float x ∈ j.leaves → SpellsFloat (f x) x.text.toList

variable {f : Binary64 → Binary64} {j : Json} {items : List Json} {fields : List (String × Json)}

/-- The numbers of an array are read by a function if those of its items are. -/
theorem readsFloatsBy_arr_iff :
    ReadsFloatsBy f (.arr items) ↔ ∀ item ∈ items, ReadsFloatsBy f item := by
  simp only [ReadsFloatsBy, mem_leaves_arr]
  grind

/-- The numbers of an object are read by a function if those of its values are. -/
theorem readsFloatsBy_obj_iff :
    ReadsFloatsBy f (.obj fields) ↔ ∀ field ∈ fields, ReadsFloatsBy f field.2 := by
  simp only [ReadsFloatsBy, mem_leaves_obj]
  grind

/-- Where there are no floating-point numbers nothing is read differently. -/
theorem HasNoFloats.readsFloatsBy (h : j.HasNoFloats) (f : Binary64 → Binary64) :
    ReadsFloatsBy f j :=
  fun x hx => absurd hx (h x)

/-- Nothing at all is a spacing. -/
theorem isSpacing_nil : IsSpacing [] :=
  List.forall_mem_nil _

/-! ### Without spaces -/

/-- The items behind the first one, on one line. -/
private theorem spellsItems_compactItems
    (h : ∀ item ∈ items, Spells (item.mapFloats f) item.compactChars) :
    SpellsItems false (items.map (mapFloats f)) (compactItems items) := by
  induction items with
  | nil => exact .close isSpacing_nil
  | cons item rest ih =>
    obtain ⟨hitem, hrest⟩ := List.forall_mem_cons.mp h
    exact .item (.next isSpacing_nil isSpacing_nil) hitem (ih hrest)

/-- The fields behind the first one, on one line. -/
private theorem spellsFields_compactFields
    (h : ∀ field ∈ fields, Spells (field.2.mapFloats f) field.2.compactChars) :
    SpellsFields false (fields.map fun field => (field.1, field.2.mapFloats f))
      (compactFields fields) := by
  induction fields with
  | nil => exact .close isSpacing_nil
  | cons field rest ih =>
    obtain ⟨hfield, hrest⟩ := List.forall_mem_cons.mp h
    exact .field (.next isSpacing_nil isSpacing_nil) isSpacing_nil isSpacing_nil hfield (ih hrest)

/-- The text on one line is a spelling of the value that is read from it. -/
theorem spells_compactChars (h : ReadsFloatsBy f j) : Spells (j.mapFloats f) j.compactChars := by
  induction j with
  | null => exact .null
  | bool b => cases b <;> constructor
  | int n => exact .int n
  | float x => exact .float (h x (.head _))
  | str s => exact .str s
  | arr items ih =>
    rw [readsFloatsBy_arr_iff] at h
    have hitems : ∀ item ∈ items, Spells (item.mapFloats f) item.compactChars :=
      fun item hitem => ih item hitem (h item hitem)
    rw [mapFloats_arr]
    cases items with
    -- Empty brackets have no items to be put apart.
    | nil => exact .arr (.close isSpacing_nil)
    | cons item rest =>
      obtain ⟨hitem, hrest⟩ := List.forall_mem_cons.mp hitems
      exact .arr (.item (.first isSpacing_nil) hitem (spellsItems_compactItems hrest))
  | obj fields ih =>
    rw [readsFloatsBy_obj_iff] at h
    have hfields : ∀ field ∈ fields, Spells (field.2.mapFloats f) field.2.compactChars :=
      fun field hfield => ih field hfield (h field hfield)
    rw [mapFloats_obj]
    cases fields with
    | nil => exact .obj (.close isSpacing_nil)
    | cons field rest =>
      obtain ⟨hfield, hrest⟩ := List.forall_mem_cons.mp hfields
      exact .obj (.field (.first isSpacing_nil) isSpacing_nil isSpacing_nil hfield
        (spellsFields_compactFields hrest))

/-! ### Over indented lines -/

/-- A new line with its indentation is a spacing. -/
theorem isSpacing_newLine (level : Nat) : IsSpacing (newLine level) := by
  simp [IsSpacing, newLine, Cursor.isSpace]

/-- A single space is a spacing. -/
theorem isSpacing_space : IsSpacing [' '] := by
  simp [IsSpacing, Cursor.isSpace]

/-- The items behind the first one, each on its own line. -/
private theorem spellsItems_prettyItems {level : Nat}
    (h : ∀ item ∈ items, ∀ level, Spells (item.mapFloats f) (item.prettyChars level)) :
    SpellsItems false (items.map (mapFloats f)) (prettyItems level items) := by
  induction items with
  | nil => exact .close (isSpacing_newLine level)
  | cons item rest ih =>
    obtain ⟨hitem, hrest⟩ := List.forall_mem_cons.mp h
    rw [prettyItems, List.append_assoc]
    exact .item (.next isSpacing_nil (isSpacing_newLine _)) (hitem _) (ih hrest)

/-- The fields behind the first one, each on its own line. -/
private theorem spellsFields_prettyFields {level : Nat}
    (h : ∀ field ∈ fields, ∀ level,
      Spells (field.2.mapFloats f) (field.2.prettyChars level)) :
    SpellsFields false (fields.map fun field => (field.1, field.2.mapFloats f))
      (prettyFields level fields) := by
  induction fields with
  | nil => exact .close (isSpacing_newLine level)
  | cons field rest ih =>
    obtain ⟨hfield, hrest⟩ := List.forall_mem_cons.mp h
    rw [prettyFields, List.append_assoc]
    exact .field (.next isSpacing_nil (isSpacing_newLine _)) isSpacing_nil isSpacing_space (hfield _)
      (ih hrest)

/-- The indented text is a spelling of the value that is read from it. -/
theorem spells_prettyChars (h : ReadsFloatsBy f j) (level : Nat) :
    Spells (j.mapFloats f) (j.prettyChars level) := by
  induction j generalizing level with
  | null => exact .null
  | bool b => cases b <;> constructor
  | int n => exact .int n
  | float x => exact .float (h x (.head _))
  | str s => exact .str s
  | arr items ih =>
    rw [readsFloatsBy_arr_iff] at h
    have hitems : ∀ item ∈ items, ∀ level, Spells (item.mapFloats f) (item.prettyChars level) :=
      fun item hitem => ih item hitem (h item hitem)
    rw [mapFloats_arr]
    cases items with
    -- Empty brackets are written on one line.
    | nil => exact .arr (.close isSpacing_nil)
    | cons item rest =>
      obtain ⟨hitem, hrest⟩ := List.forall_mem_cons.mp hitems
      rw [prettyChars, List.append_assoc]
      exact .arr (.item (.first (isSpacing_newLine _)) (hitem _) (spellsItems_prettyItems hrest))
  | obj fields ih =>
    rw [readsFloatsBy_obj_iff] at h
    have hfields : ∀ field ∈ fields, ∀ level,
        Spells (field.2.mapFloats f) (field.2.prettyChars level) :=
      fun field hfield => ih field hfield (h field hfield)
    rw [mapFloats_obj]
    cases fields with
    | nil => exact .obj (.close isSpacing_nil)
    | cons field rest =>
      obtain ⟨hfield, hrest⟩ := List.forall_mem_cons.mp hfields
      rw [prettyChars, List.append_assoc]
      exact .obj (.field (.first (isSpacing_newLine _)) isSpacing_nil isSpacing_space (hfield _)
        (spellsFields_prettyFields hrest))

end PageScript.Json
