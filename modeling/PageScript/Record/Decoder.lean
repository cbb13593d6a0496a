import PageScript.Record.Failure

/-!
# Reading records

A decoder reads a value as a type. The fields of a record are read by name, or by place when the record is written
as an array. The entries of a record are looked at in the order they have, and the first one that does not fit is
the failure of the record; a field that is absent is only missed after that.

A value is read either directly or after it was put aside, as the rest of a record is until its tag is known. The
two ways differ in the wording of arrays that are too long, and values put aside are no longer at a spot of a text.
-/

namespace PageScript.Record

/-- How a value is read. -/
inductive Reading where
  | direct
  | buffered
deriving DecidableEq, Repr

/-- A way to read a value as a type. -/
abbrev Decoder (α : Type) := Reading → Json → Except Failure α

/-- Runs a decoder on a value as such. -/
def Decoder.run (d : Decoder α) (j : Json) : Except Failure α :=
  d .direct j

/-- Reads a value that was put aside. -/
def Decoder.runAside (d : Decoder α) (j : Json) : Except Failure α :=
  (d .buffered j).mapError Failure.setAside

/-- Refuses a value of the wrong type. A list or record is refused before it is read, anything else after. -/
def refuse (expected : Expectation) (j : Json) : Except Failure α :=
  .error (.here (.wrongType (.of j) expected) (match j with
    | .arr _ | .obj _ => .before
    | _ => .after))

/-- Refuses a value of the right type. -/
def refuseValue (expected : Expectation) (j : Json) : Except Failure α :=
  .error (.here (.wrongValue (.of j) expected) .after)

/-- Any value, with its objects in canonical order. -/
def free : Decoder Json := fun _ j => .ok j.canonical

/-- A text. -/
def text : Decoder String
  | _, .str s => .ok s
  | _, j => refuse .text j

/-- A truth value. -/
def truth : Decoder Bool
  | _, .bool b => .ok b
  | _, j => refuse .truth j

/-- An integer in a range, whose type has a name. -/
def integer (type : String) (least greatest : Int) (make : Int → α) : Decoder α
  | _, .int n => if least ≤ n ∧ n ≤ greatest then .ok (make n) else refuseValue (.number type) (.int n)
  | _, j => refuse (.number type) j

/-- A natural number of sixteen bits. -/
def word16 : Decoder UInt16 :=
  integer "u16" 0 65535 fun n => UInt16.ofNat n.toNat

/-- A natural number of thirty-two bits. -/
def word32 : Decoder UInt32 :=
  integer "u32" 0 4294967295 fun n => UInt32.ofNat n.toNat

/-- A natural number of sixty-four bits. -/
def word64 : Decoder UInt64 :=
  integer "u64" 0 18446744073709551615 fun n => UInt64.ofNat n.toNat

/-- A size, of sixty-four bits. -/
def size64 : Decoder UInt64 :=
  integer "usize" 0 18446744073709551615 fun n => UInt64.ofNat n.toNat

/-- An integer of sixty-four bits. -/
def int64 : Decoder Int64 :=
  integer "i64" (-9223372036854775808) 9223372036854775807 Int64.ofInt

/-- A binary64 number; an integer is rounded to the nearest one. -/
def number : Decoder Binary64
  | _, .float x => .ok x
  | _, .int n => .ok (.ofInt n)
  | _, j => refuse (.number "f64") j

/-- A value that may be `null`. -/
def optional (d : Decoder α) : Decoder (Option α)
  | _, .null => .ok none
  | r, j => (d r j).map some

/-- The values of the items of an array, the first of which has an index. -/
def itemsFrom (d : Decoder α) (r : Reading) : Nat → List Json → Except Failure (List α)
  | _, [] => .ok []
  | i, item :: rest => do
    let value ← (d r item).mapError (Failure.within i)
    return value :: (← itemsFrom d r (i + 1) rest)

/-- An array of values of one type. -/
def list (d : Decoder α) : Decoder (List α)
  | r, .arr items => itemsFrom d r 0 items
  | _, j => refuse .sequence j

/-! ## Fields -/

/-- What reading some fields of a record came to: a value, the first field that is absent, or the first entry that
does not fit. -/
inductive Reads (α : Type) where
  | read (a : α)
  | lacking (index : Nat) (name : String)
  | failed (entry : Nat) (failure : Failure)

namespace Reads

/-- The outcome with a function applied to the value. -/
def map (f : α → β) : Reads α → Reads β
  | .read a => .read (f a)
  | .lacking index name => .lacking index name
  | .failed entry failure => .failed entry failure

/-- Joins the outcomes of fields and of the fields after them. Of two entries that fail the earlier counts, and an
entry that fails counts before a field that is absent. -/
def ap : Reads (α → β) → Reads α → Reads β
  | .failed i e, .failed j e' => if j < i then .failed j e' else .failed i e
  | .failed i e, _ => .failed i e
  | _, .failed j e => .failed j e
  | .lacking index name, _ => .lacking index name
  | .read _, .lacking index name => .lacking index name
  | .read f, .read a => .read (f a)

end Reads

/-- A way to read some fields of a record, by name or by place. -/
structure Fields (α : Type) where
  /-- The number of fields. -/
  size : Nat
  /-- Reads the fields by name; the first of them has an index among the fields of the record. -/
  ofEntries : Reading → Nat → List (String × Json) → Reads α
  /-- Reads the fields by place; the first of them has an index among the items. -/
  ofItems : Reading → Nat → List Json → Reads α

instance : Functor Fields where
  map f fields :=
    { size := fields.size
      ofEntries := fun r i entries => (fields.ofEntries r i entries).map f
      ofItems := fun r i items => (fields.ofItems r i items).map f }

instance : Seq Fields where
  seq fs next :=
    let gs := next ()
    { size := fs.size + gs.size
      ofEntries := fun r i entries => (fs.ofEntries r i entries).ap (gs.ofEntries r (i + fs.size) entries)
      ofItems := fun r i items => (fs.ofItems r i items).ap (gs.ofItems r (i + fs.size) items) }

/-- The first value of a name and its index, and the index of the next entry of that name. -/
def occurrences (name : String) (entries : List (String × Json)) : Option (Nat × Json) × Option Nat :=
  let found := entries.zipIdx.filter fun entry => entry.1.1 = name
  (found.head?.map fun entry => (entry.2, entry.1.2), (found.drop 1).head?.map fun entry => entry.2)

/-- Reads a field by its name. -/
def readEntry (name : String) (d : Decoder α) (fallback : Option α) (r : Reading) (index : Nat)
    (entries : List (String × Json)) : Reads α :=
  match occurrences name entries with
  | (none, _) =>
    match fallback with
    | some a => .read a
    | none => .lacking index name
  | (some (i, j), second) =>
    match d r j, second with
    | .error e, _ => .failed i (e.within i)
    | .ok _, some k => .failed k ((Failure.here (.duplicateField name) .lead).within k)
    | .ok a, none => .read a

/-- Reads a field by its place. -/
def readItem (name : String) (d : Decoder α) (fallback : Option α) (r : Reading) (index : Nat)
    (items : List Json) : Reads α :=
  match items[index]? with
  | some j =>
    match d r j with
    | .ok a => .read a
    | .error e => .failed index (e.within index)
  | none =>
    match fallback with
    | some a => .read a
    | none => .lacking index name

/-- A field of a record, with the value it has when it is absent, if it may be absent. -/
def field (name : String) (d : Decoder α) (fallback : Option α) : Fields α where
  size := 1
  ofEntries := readEntry name d fallback
  ofItems := readItem name d fallback

/-- A field that must be there. -/
def required (name : String) (d : Decoder α) : Fields α :=
  field name d none

/-- A field that has a value when it is absent. -/
def defaulting (name : String) (d : Decoder α) (value : α) : Fields α :=
  field name d (some value)

/-- A field that may be absent or `null`. -/
def possible (name : String) (d : Decoder α) : Fields (Option α) :=
  field name (optional d) (some none)

/-- The end of an array that should hold a number of items. -/
def checkLength (r : Reading) (count : Nat) (items : List Json) : Except Failure Unit :=
  if items.length ≤ count then .ok ()
  else .error (.here (.wrongLength items.length (match r with
    | .direct => .noMoreItems
    | .buffered => .itemCount count)) .after)

/-- A record with these fields, written as an object or as an array. -/
def record (shape : Expectation) (fields : Fields α) : Decoder α
  | r, .obj entries =>
    match fields.ofEntries r 0 entries with
    | .read a => .ok a
    | .lacking _ name => .error (.here (.missingField name) .after)
    | .failed _ failure => .error failure
  | r, .arr items =>
    match fields.ofItems r 0 items with
    | .read a => do
      checkLength r fields.size items
      return a
    | .lacking index _ => .error (.here (.wrongLength index (.withItems shape fields.size)) .after)
    | .failed _ failure => .error failure
  | _, j => refuse shape j

/-! ## Choices -/

/-- The value that a name stands for. -/
def choose (choices : List (String × α)) (name : String) : Except Failure α :=
  match choices.find? fun choice => choice.1 = name with
  | some choice => .ok choice.2
  | none => .error (.here (.unknownVariant name (choices.map Prod.fst)) .after)

/-- What a named choice holds. -/
inductive Variant (α : Type) where
  | plain (a : α)
  | holding (d : Decoder α)

/-- Nothing: `null`, or an object without entries that was put aside. -/
def nothing : Decoder Unit
  | _, .null => .ok ()
  | .buffered, .obj [] => .ok ()
  | _, j => refuse .unit j

/-- A choice written as its name, or as an object whose one key is the name. -/
def variant (variants : List (String × Variant α)) : Decoder α
  | _, .str name => do
    match ← choose variants name with
    | .plain a => return a
    | .holding _ => .error (.here (.wrongType .bareName .variantValue) .after)
  | r, .obj [(name, j)] => do
    match ← choose variants name with
    | .plain a =>
      (nothing r j).mapError (Failure.within 0)
      return a
    | .holding d => (d r j).mapError (Failure.within 0)
  | _, .obj entries => refuseValue .singleKey (.obj entries)
  | _, j => refuse .nameOrMap j

/-- A choice among names. -/
def oneOf (choices : List (String × α)) : Decoder α :=
  variant (choices.map fun choice => (choice.1, .plain choice.2))

/-- The name of a choice in a tag. A tag that was put aside may be an index. -/
def tagName (choices : List (String × α)) : Decoder α
  | _, .str name => choose choices name
  | .buffered, .int n =>
    match if n < 0 then none else choices[n.toNat]? with
    | some choice => .ok choice.2
    | none =>
      if n < 0 then refuse .variantName (.int n)
      else refuseValue (.variantIndex choices.length) (.int n)
  | _, j => refuse .variantName j

/-- No fields at all: any entries, or an array without items. -/
def noFields (a : α) : Decoder α
  | r, .arr items => do
    checkLength r 0 items
    return a
  | _, _ => .ok a

/-- A choice whose name is the entry `tag` of an object, or the first item of an array. The other entries or items
are put aside until the name is known. -/
def tagged (name tag : String) (variants : List (String × Decoder α)) : Decoder α
  | r, .obj entries =>
    match occurrences tag entries with
    | (none, _) => .error (.here (.missingField tag) .after)
    | (some (i, j), second) => do
      let d ← (tagName variants r j).mapError (Failure.within i)
      match second with
      | some k => .error ((Failure.here (.duplicateField tag) .lead).within k)
      | none => d.runAside (.obj (entries.filter fun entry => entry.1 ≠ tag))
  | _, .arr [] => .error (.here (.missingField tag) .after)
  | r, .arr (j :: rest) => do
    let d ← (tagName variants r j).mapError (Failure.within 0)
    d.runAside (.arr rest)
  | _, j => refuse (.taggedEnum name) j

/-- A choice with its name and its content in two entries of an object, or in two items of an array. -/
def adjacent (name tag content : String) (variants : List (String × Decoder α)) : Decoder α
  | r, .obj entries =>
    match occurrences tag entries, occurrences content entries with
    | (none, _), _ => .error (.here (.missingField tag) .after)
    | (some (i, j), second), (found, again) => do
      let d ← (oneOf variants r j).mapError (Failure.within i)
      match found with
      | none => .error (.here (.missingField content) .after)
      | some (k, value) =>
        let a ← if i < k then (d r value).mapError (Failure.within k) else d.runAside value
        match second, again with
        | some n, _ => .error ((Failure.here (.duplicateField tag) .lead).within n)
        | none, some n => .error ((Failure.here (.duplicateField content) .lead).within n)
        | none, none => return a
  | _, .arr [] => .error (.here (.wrongLength 0 (.adjacentEnum name)) .after)
  | r, .arr [j] => do
    let _ ← (oneOf variants r j).mapError (Failure.within 0)
    .error (.here (.wrongLength 1 (.adjacentEnum name)) .after)
  | r, .arr (j :: value :: rest) => do
    let d ← (oneOf variants r j).mapError (Failure.within 0)
    let a ← (d r value).mapError (Failure.within 1)
    checkLength r 2 (j :: value :: rest)
    return a
  | _, j => refuse (.adjacentEnum name) j

/-- The first of two types that a value can be read as. -/
def either (name : String) (first second : Decoder α) : Decoder α := fun _ j =>
  match first .buffered j with
  | .ok a => .ok a
  | .error _ =>
    match second .buffered j with
    | .ok a => .ok a
    | .error _ => .error (.nowhere (.noVariant name))

end PageScript.Record
