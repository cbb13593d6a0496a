import PageScript.Proofs.Decimal.Binary64
import PageScript.Proofs.Json.Leaves

/-!
# The bounds of what is read

Whatever a text is, the value that is read from it has no more levels than the reader goes, its
integers have 64 bits, and its floating-point numbers are finite.

* `Json.isReadable_readNumber` — a number that is read has 64 bits or is finite;
* `Json.isReadable_read` — what the reader makes of any characters is readable;
* `Json.isReadable_ofText` — so is what a text holds.
-/

namespace PageScript.Json

/-! ### Numbers -/

/-- A significand that has been read so far stays a word. -/
private theorem accumulate_le {n : Nat} (h : n ≤ maxWord) (ds : List Char) :
    (accumulate n ds).1 ≤ maxWord := by
  induction ds generalizing n with
  | nil => exact h
  | cons d ds ih =>
    rw [accumulate]
    split_ifs with hfits
    · exact h
    · exact ih (Nat.not_lt.mp hfits)

/-- An integer of 64 bits, or a finite number. -/
def Numeral.IsReadable : Numeral → Prop
  | .int n => IsWord n
  | .float x => x.isFinite = true

variable {positive : Bool} {c after : Cursor} {number : Numeral} {e start : Int} {significand : Nat}

/-- A number that is finished is one that can be read. -/
theorem isReadable_finish (h : finish positive significand e c = .ok (number, after)) :
    number.IsReadable := by
  rw [finish] at h
  split at h
  · cases h
  · next x hx =>
    have hfinite := Binary64.isFinite_of_ofDecimal?_eq_some hx
    cases h
    cases positive
    · exact (Binary64.isFinite_neg x).trans hfinite
    · exact hfinite

/-- A number with an exponent is one that can be read. -/
theorem isReadable_readExponent
    (h : readExponent positive significand e c = .ok (number, after)) : number.IsReadable := by
  unfold readExponent at h
  simp only at h
  split at h
  · cases h
  · split_ifs at h
    · cases h
      exact Binary64.isFinite_ofParts (by decide)
    all_goals exact isReadable_finish h

/-- A number is one that can be read, whatever comes after its digits. -/
theorem isReadable_readTail (h : readTail positive significand e c = .ok (number, after)) :
    number.IsReadable := by
  rw [readTail] at h
  split at h
  · exact isReadable_readExponent h
  · exact isReadable_readExponent h
  · exact isReadable_finish h

/-- A number with a fraction is one that can be read. -/
theorem isReadable_readFraction (h : readFraction positive significand e c = .ok (number, after)) :
    number.IsReadable := by
  unfold readFraction at h
  simp only at h
  split_ifs at h
  exact isReadable_readTail h

/-- A number that is read has 64 bits or is finite. -/
theorem isReadable_readNumber (h : readNumber positive c = .ok (number, after)) :
    number.IsReadable := by
  unfold readNumber at h
  simp only at h
  have hle := accumulate_le (Nat.zero_le maxWord) (readDigits c).1
  rw [maxWord] at hle
  split at h
  · cases h
  · split at h
    · cases h
    · split at h
      · cases h
      · split at h
        · exact isReadable_readFraction h
        · exact isReadable_readExponent h
        · exact isReadable_readExponent h
        -- What has neither a fraction nor an exponent is an integer if it has 64 bits.
        · split_ifs at h
          · exact isReadable_finish h
          · cases h
            exact ⟨by omega, by rw [maxWord]; omega⟩
          · cases h
            exact ⟨by omega, by rw [maxWord]; omega⟩
          · cases h
            have hword : (_ : ℕ) ≤ 2 ^ 64 := hle.trans (by decide)
            refine Binary64.isFinite_ofRatio true Nat.one_pos ?_
            rw [Nat.cast_one, div_one]
            refine lt_of_le_of_lt ?_ (Binary64.two_zpow_lt_overflow (e := 64) (by decide))
            exact_mod_cast hword

/-- An integer that is read is a word. -/
theorem isWord_of_readNumber {n : Int} (h : readNumber positive c = .ok (.int n, after)) :
    IsWord n :=
  isReadable_readNumber h

/-- A floating-point number that is read is finite. -/
theorem isFinite_of_readNumber {x : Binary64} (h : readNumber positive c = .ok (.float x, after)) :
    x.isFinite = true :=
  isReadable_readNumber h

/-! ### Values -/

/-- The values of the items of a document. -/
private theorem rawItems_eq (docs : List Document) :
    Document.rawItems docs = docs.map Document.raw := by
  induction docs with
  | nil => rfl
  | cons doc rest ih => rw [Document.rawItems, ih, List.map_cons]

/-- The values of the entries of a document. -/
private theorem rawEntries_eq (docs : List (String × Document)) :
    Document.rawEntries docs = docs.map fun entry => (entry.1, entry.2.raw) := by
  induction docs with
  | nil => rfl
  | cons entry rest ih => rw [Document.rawEntries, ih, List.map_cons]

/-- A bounded value whose floating-point numbers are finite. -/
structure IsReadable (levels : Nat) (j : Json) : Prop extends IsBounded levels j where
  hasFiniteFloats : j.HasFiniteFloats

variable {items : List Json} {fields : List (String × Json)} {d : Nat}

/-- An array is readable if its items are, one level further in. -/
theorem isReadable_arr_iff :
    IsReadable (d + 1) (.arr items) ↔ ∀ item ∈ items, item.IsReadable d := by
  constructor
  · rintro ⟨hbounded, hfloats⟩ item hitem
    exact ⟨isBounded_arr_iff.mp hbounded item hitem, hasFiniteFloats_arr_iff.mp hfloats item hitem⟩
  · intro h
    exact ⟨isBounded_arr_iff.mpr fun item hitem => (h item hitem).toIsBounded,
      hasFiniteFloats_arr_iff.mpr fun item hitem => (h item hitem).hasFiniteFloats⟩

/-- An object is readable if its values are, one level further in. -/
theorem isReadable_obj_iff :
    IsReadable (d + 1) (.obj fields) ↔ ∀ field ∈ fields, field.2.IsReadable d := by
  constructor
  · rintro ⟨hbounded, hfloats⟩ field hfield
    exact ⟨isBounded_obj_iff.mp hbounded field hfield,
      hasFiniteFloats_obj_iff.mp hfloats field hfield⟩
  · intro h
    exact ⟨isBounded_obj_iff.mpr fun field hfield => (h field hfield).toIsBounded,
      hasFiniteFloats_obj_iff.mpr fun field hfield => (h field hfield).hasFiniteFloats⟩

/-- The empty value is readable. -/
theorem isReadable_null : IsReadable d .null :=
  ⟨isBounded_null, by simp [HasFiniteFloats, leaves]⟩

/-- A truth value is readable. -/
theorem isReadable_bool (b : Bool) : IsReadable d (.bool b) :=
  ⟨isBounded_bool b, hasFiniteFloats_bool b⟩

/-- A text is readable. -/
theorem isReadable_str (s : String) : IsReadable d (.str s) :=
  ⟨isBounded_str s, hasFiniteFloats_str s⟩

/-- A word is readable. -/
theorem isReadable_int {n : Int} (h : IsWord n) : IsReadable d (.int n) :=
  ⟨isBounded_int_iff.mpr h, hasFiniteFloats_int n⟩

/-- A finite number is readable. -/
theorem isReadable_float {x : Binary64} (h : x.isFinite = true) : IsReadable d (.float x) := by
  refine ⟨isBounded_float x, fun y hy => ?_⟩
  obtain rfl : y = x := by simpa [leaves] using hy
  exact h

variable {fuel : Nat} {lead : Position} {first : Bool}

/-- What is left when a text breaks off is readable. -/
theorem isReadable_stop (b : Broken) : (stop lead b).1.raw.IsReadable d :=
  isReadable_null

/-- A value is readable if what stands in brackets is when it is read with less fuel. -/
theorem isReadable_readValue_succ
    (hitems : ∀ d first c, ∀ doc ∈ (readItems fuel d first c).1, doc.raw.IsReadable d)
    (hentries : ∀ d first c, ∀ entry ∈ (readEntries fuel d first c).1, entry.2.raw.IsReadable d) :
    (readValue (fuel + 1) d lead c).1.raw.IsReadable d := by
  rw [readValue.eq_def]
  simp only
  split
  · exact isReadable_stop _
  · split_ifs
    -- The three words, the two signs of a number, strings, lists and objects.
    · split
      · exact isReadable_stop _
      · exact isReadable_null
    · split
      · exact isReadable_stop _
      · exact isReadable_bool _
    · split
      · exact isReadable_stop _
      · exact isReadable_bool _
    · split
      · exact isReadable_stop _
      · exact isReadable_int (isWord_of_readNumber ‹_›)
      · exact isReadable_float (isFinite_of_readNumber ‹_›)
    · split
      · exact isReadable_stop _
      · exact isReadable_int (isWord_of_readNumber ‹_›)
      · exact isReadable_float (isFinite_of_readNumber ‹_›)
    · split
      · exact isReadable_stop _
      · exact isReadable_str _
    · cases d with
      | zero => exact isReadable_stop _
      | succ d =>
        have hread := hitems d true c.skip.next
        simp only
        split <;>
        · rename_i heq
          rw [heq] at hread
          rw [Document.raw, rawItems_eq, isReadable_arr_iff, List.forall_mem_map]
          exact hread
    · cases d with
      | zero => exact isReadable_stop _
      | succ d =>
        have hread := hentries d true c.skip.next
        simp only
        split <;>
        · rename_i heq
          rw [heq] at hread
          rw [Document.raw, rawEntries_eq, isReadable_obj_iff, List.forall_mem_map]
          exact hread
    · exact isReadable_stop _

/-- Items are readable if values and later items are when they are read with less fuel. -/
theorem isReadable_readItems_succ
    (hvalue : ∀ d lead c, (readValue fuel d lead c).1.raw.IsReadable d)
    (hitems : ∀ d first c, ∀ doc ∈ (readItems fuel d first c).1, doc.raw.IsReadable d) :
    ∀ doc ∈ (readItems (fuel + 1) d first c).1, doc.raw.IsReadable d := by
  have hbroken (fault : Fault) (place lead : Position) :
      ∀ doc ∈ [Document.broken fault place lead], doc.raw.IsReadable d :=
    List.forall_mem_singleton.mpr isReadable_null
  rw [readItems]
  simp only
  split
  · exact hbroken _ _ _
  · split
    · exact List.forall_mem_nil _
    · split
      · exact hbroken _ _ _
      -- All that is left is an item that was read, with what comes behind it.
      · rename_i start _
        have hread := hvalue d start.place start
        split
        · exact hbroken _ _ _
        · split
          · exact hbroken _ _ _
          · split
            · rename_i heq
              rw [heq] at hread
              exact List.forall_mem_singleton.mpr hread
            · rename_i after heq
              rw [heq] at hread
              exact List.forall_mem_cons.mpr ⟨hread, hitems d false after⟩

/-- Fields are readable if values and later fields are when they are read with less fuel. -/
theorem isReadable_readEntries_succ
    (hvalue : ∀ d lead c, (readValue fuel d lead c).1.raw.IsReadable d)
    (hentries : ∀ d first c, ∀ entry ∈ (readEntries fuel d first c).1, entry.2.raw.IsReadable d) :
    ∀ entry ∈ (readEntries (fuel + 1) d first c).1, entry.2.raw.IsReadable d := by
  have hbroken (key : String) (fault : Fault) (place lead : Position) :
      ∀ entry ∈ [(key, Document.broken fault place lead)], entry.2.raw.IsReadable d :=
    List.forall_mem_singleton.mpr isReadable_null
  rw [readEntries]
  simp only
  split
  · exact hbroken _ _ _ _
  · split
    · exact List.forall_mem_nil _
    · split
      · exact hbroken _ _ _ _
      · split
        · exact hbroken _ _ _ _
        · split
          · exact hbroken _ _ _ _
          · split
            · exact hbroken _ _ _ _
            · split
              · exact hbroken _ _ _ _
              -- All that is left is a value that was read, with what comes behind it.
              · rename_i key after _
                have hread := hvalue d after.skip.place after.skip.next
                split
                · exact hbroken _ _ _ _
                · split
                  · rename_i heq
                    rw [heq] at hread
                    exact List.forall_mem_singleton.mpr hread
                  · rename_i rest heq
                    rw [heq] at hread
                    exact List.forall_mem_cons.mpr ⟨hread, hentries d false rest⟩
                · exact hbroken _ _ _ _

/-- What the reader makes of any characters with some fuel is readable. -/
theorem isReadable_read (fuel : Nat) :
    (∀ d lead c, (readValue fuel d lead c).1.raw.IsReadable d) ∧
      (∀ d first c, ∀ doc ∈ (readItems fuel d first c).1, doc.raw.IsReadable d) ∧
      ∀ d first c, ∀ entry ∈ (readEntries fuel d first c).1, entry.2.raw.IsReadable d := by
  induction fuel with
  | zero =>
    exact ⟨fun d lead c => isReadable_null,
      fun d first c => List.forall_mem_singleton.mpr isReadable_null,
      fun d first c => List.forall_mem_singleton.mpr isReadable_null⟩
  | succ fuel ih =>
    obtain ⟨hvalue, hitems, hentries⟩ := ih
    exact ⟨fun d lead c => isReadable_readValue_succ hitems hentries,
      fun d first c => isReadable_readItems_succ hvalue hitems,
      fun d first c => isReadable_readEntries_succ hvalue hentries⟩

/-- What a text holds is readable. -/
theorem isReadable_ofText (s : String) : (Document.ofText s).1.raw.IsReadable maxDepth := by
  have hread := (isReadable_read (2 * s.length + 2)).1 maxDepth (Cursor.ofText s).place
    (Cursor.ofText s)
  rw [Document.ofText]
  simp only
  split
  · rename_i heq
    rwa [heq] at hread
  · rename_i heq
    rwa [heq] at hread

/-- What is read from a text is bounded by the deepest level. -/
theorem isBounded_ofText (s : String) : (Document.ofText s).1.raw.IsBounded maxDepth :=
  (isReadable_ofText s).toIsBounded

/-- A free value that was read from a text is canonical and readable. -/
theorem canonical_and_readable_of_parse {s : String} {j : Json} (h : parse s = .ok j) :
    j.IsCanonical ∧ j.IsReadable maxDepth := by
  have hread := isReadable_ofText s
  rw [parse] at h
  simp only at h
  split at h
  · cases h
    exact ⟨isCanonical_canonical _, hread.toIsBounded.canonical, hread.hasFiniteFloats.canonical⟩
  · cases h

end PageScript.Json
