import PageScript.Proofs.Json.Spelling

/-!
# Reading what was spelled

Every spelling of a value is read as that value, whatever the spaces in it, as long as the value is
not nested more deeply than the reader goes and its integers have 64 bits. So is what the printer
makes of it, up to what the texts of its floating-point numbers are read as.

* `Json.exists_readString_eq` — strings are read back;
* `Json.Spells.readsValue` — so is every value that is spelled, whatever comes after it;
* `Json.exists_ofText_compact`, `Json.parse_pretty` — and what the printer makes of a value.
-/

namespace PageScript.Json

open Cursor

variable {rest gap : List Char}

/-! ### Spaces -/

/-- Spaces are stepped over up to what comes after them. -/
theorem exists_skip_eq (rest : List Char) (hgap : IsSpacing gap)
    (hrest : ∀ c ∈ rest.head?, isSpace c = false) (p : Position) :
    ∃ q, (Cursor.mk p (gap ++ rest)).skip = ⟨q, rest⟩ := by
  induction gap generalizing p with
  | nil =>
    refine ⟨p, ?_⟩
    cases rest with
    | nil => rfl
    | cons c cs => simp [skip, skipFrom, hrest c rfl]
  | cons c cs ih =>
    obtain ⟨hc, hcs⟩ := List.forall_mem_cons.mp hgap
    obtain ⟨q, hq⟩ := ih hcs (advance p c)
    exact ⟨q, by simpa [skip, skipFrom, hc] using hq⟩

/-! ### Strings -/

/-- A hexadecimal digit is read as its value. -/
theorem hexValue?_hexDigit {n : Nat} (h : n < 16) : hexValue? (hexDigit n) = some n := by
  revert n
  decide

/-- An escape of four hexadecimal digits is read as the control character it stands for. -/
theorem exists_readUnicode_eq {c : Char} (h : c.toNat < 0x20) (p : Position) :
    ∃ q, readUnicode ⟨p, '0' :: '0' :: hexDigit (c.toNat / 16) :: hexDigit (c.toNat % 16) :: rest⟩ =
      .ok (c, ⟨q, rest⟩) := by
  have hvalue : ((0 * 16 + 0) * 16 + c.toNat / 16) * 16 + c.toNat % 16 = c.toNat := by omega
  have hhex : readHex ⟨p, '0' :: '0' :: hexDigit (c.toNat / 16) :: hexDigit (c.toNat % 16) :: rest⟩ =
      .ok (c.toNat, ⟨⟨p.line, p.column + 4⟩, rest⟩) := by
    simp only [readHex, hexValue?_hexDigit (show c.toNat / 16 < 16 by omega),
      hexValue?_hexDigit (Nat.mod_lt c.toNat (by decide : 16 > 0)),
      show hexValue? '0' = some 0 from rfl, hvalue]
  refine ⟨⟨p.line, p.column + 4⟩, ?_⟩
  rw [readUnicode, hhex]
  simp only [bind, Except.bind]
  rw [if_neg (by omega), if_pos (by omega), Char.ofNat_toNat]

/-- A character stands in a string as it is, or as an escape that is read as the character. -/
theorem escapeChar_cases (c : Char) :
    escapeChar c = [c] ∧ c ≠ '"' ∧ c ≠ '\\' ∧ ¬ c.toNat < 0x20 ∨
      ∃ e, escapeChar c = '\\' :: e ∧
        ∀ p rest, ∃ q, readEscape ⟨p, e ++ rest⟩ = .ok (c, ⟨q, rest⟩) := by
  have hc (n : Nat) (h : c.toNat = n) : c = Char.ofNat n := by rw [← h, Char.ofNat_toNat]
  unfold escapeChar
  -- The quote, the backslash and the named controls, then the other controls, and then all the
  -- rest.
  split_ifs with h h h h h h h h
  · subst h
    exact .inr ⟨_, rfl, fun p rest => ⟨_, rfl⟩⟩
  · subst h
    exact .inr ⟨_, rfl, fun p rest => ⟨_, rfl⟩⟩
  · rw [hc 8 h]
    exact .inr ⟨_, rfl, fun p rest => ⟨_, rfl⟩⟩
  · rw [hc 9 h]
    exact .inr ⟨_, rfl, fun p rest => ⟨_, rfl⟩⟩
  · rw [hc 10 h]
    exact .inr ⟨_, rfl, fun p rest => ⟨_, rfl⟩⟩
  · rw [hc 12 h]
    exact .inr ⟨_, rfl, fun p rest => ⟨_, rfl⟩⟩
  · rw [hc 13 h]
    exact .inr ⟨_, rfl, fun p rest => ⟨_, rfl⟩⟩
  · exact .inr ⟨_, rfl, fun p rest => exists_readUnicode_eq h _⟩
  · exact .inl ⟨rfl, ‹_›, ‹_›, h⟩

/-- The characters of a string are read back up to the quote that ends it. -/
theorem exists_readString_eq {cs : List Char} {fuel : Nat} (hfuel : cs.length < fuel)
    (p : Position) :
    ∃ q, readString fuel ⟨p, cs.flatMap escapeChar ++ '"' :: rest⟩ = .ok (cs, ⟨q, rest⟩) := by
  induction cs generalizing fuel p with
  | nil =>
    obtain ⟨fuel, rfl⟩ := Nat.exists_eq_add_one_of_ne_zero (Nat.ne_of_gt hfuel)
    exact ⟨_, rfl⟩
  | cons c cs ih =>
    obtain ⟨fuel, rfl⟩ := Nat.exists_eq_add_one_of_ne_zero (Nat.ne_of_gt (Nat.zero_lt_of_lt hfuel))
    have hcs : cs.length < fuel := Nat.lt_of_succ_lt_succ hfuel
    rw [List.flatMap_cons, List.append_assoc]
    -- A character stands for itself, or is read back from its escape.
    rcases escapeChar_cases c with ⟨hc, hquote, hbackslash, hcontrol⟩ | ⟨e, hc, he⟩
    · obtain ⟨q, hq⟩ := ih hcs (advance p c)
      refine ⟨q, ?_⟩
      rw [hc, readString]
      simp only [List.cons_append, List.nil_append, next, if_neg hquote, if_neg hbackslash,
        if_neg hcontrol, hq]
      rfl
    · obtain ⟨q, hq⟩ := he (advance p '\\') (cs.flatMap escapeChar ++ '"' :: rest)
      obtain ⟨q', hq'⟩ := ih hcs q
      refine ⟨q', ?_⟩
      rw [hc, readString]
      simp only [List.cons_append, next, hq, hq', bind, Except.bind]
      rfl

/-! ### Values -/

/-- The reader has read a value and stands in front of the rest. -/
def ReadsValue (result : Document × Option Cursor) (j : Json) (rest : List Char) : Prop :=
  ∃ doc q, result = (doc, some ⟨q, rest⟩) ∧ doc.raw = j ∧ doc.fault? = none

/-- The reader has read the items of an array and stands behind its closing bracket. -/
def ReadsItems (result : List Document × Option Cursor) (items : List Json) (rest : List Char) :
    Prop :=
  ∃ docs q, result = (docs, some ⟨q, rest⟩) ∧ Document.rawItems docs = items ∧
    Document.faultInItems? docs = none

/-- The reader has read the fields of an object and stands behind its closing brace. -/
def ReadsEntries (result : List (String × Document) × Option Cursor) (fields : List (String × Json))
    (rest : List Char) : Prop :=
  ∃ docs q, result = (docs, some ⟨q, rest⟩) ∧ Document.rawEntries docs = fields ∧
    Document.faultInEntries? docs = none

variable {fuel d : Nat} {lead p : Position} {c : Char} {cs cs' : List Char}

/-- The word for the empty value is read as that value. -/
private theorem readsValue_null :
    ReadsValue (readValue (fuel + 1) d lead ⟨p, ['n', 'u', 'l', 'l'] ++ rest⟩) .null rest :=
  ⟨_, _, rfl, rfl, rfl⟩

/-- The word for what is true is read as that value. -/
private theorem readsValue_true :
    ReadsValue (readValue (fuel + 1) d lead ⟨p, ['t', 'r', 'u', 'e'] ++ rest⟩) (.bool true) rest :=
  ⟨_, _, rfl, rfl, rfl⟩

/-- The word for what is false is read as that value. -/
private theorem readsValue_false :
    ReadsValue (readValue (fuel + 1) d lead ⟨p, ['f', 'a', 'l', 's', 'e'] ++ rest⟩) (.bool false)
      rest :=
  ⟨_, _, rfl, rfl, rfl⟩

/-- An escape is at least as long as what it stands for. -/
private theorem length_le_length_flatMap_escapeChar (cs : List Char) :
    cs.length ≤ (cs.flatMap escapeChar).length := by
  induction cs with
  | nil => exact Nat.le_refl _
  | cons c cs ih =>
    have hc : 0 < (escapeChar c).length := by
      rcases escapeChar_cases c with ⟨hc, -⟩ | ⟨e, hc, -⟩ <;> simp [hc]
    rw [List.flatMap_cons, List.length_append, List.length_cons]
    omega

/-- A string is read from a text that is as long as the rest of the text. -/
theorem exists_readString_stringChars (s : String) (rest : List Char) (p : Position) :
    ∃ q, readString ((stringChars s ++ rest).length + 1)
        ⟨p, s.toList.flatMap escapeChar ++ '"' :: rest⟩ = .ok (s.toList, ⟨q, rest⟩) := by
  refine exists_readString_eq ?_ p
  have hlength := length_le_length_flatMap_escapeChar s.toList
  simp only [stringChars, List.length_append, List.length_cons]
  omega

/-- A text between quotes is read as that text, and its escapes are taken back. -/
private theorem readsValue_str (s : String) :
    ReadsValue (readValue (fuel + 1) d lead ⟨p, stringChars s ++ rest⟩) (.str s) rest := by
  obtain ⟨q, hq⟩ := exists_readString_stringChars s rest (advance p '"')
  have hchars : stringChars s ++ rest = '"' :: (s.toList.flatMap escapeChar ++ '"' :: rest) := by
    simp [stringChars]
  rw [hchars] at hq ⊢
  have hskip : (Cursor.mk p ('"' :: (s.toList.flatMap escapeChar ++ '"' :: rest))).skip =
    ⟨p, '"' :: (s.toList.flatMap escapeChar ++ '"' :: rest)⟩ := rfl
  rw [readValue.eq_def]
  simp only [hskip, next, hq]
  exact ⟨_, q, rfl, by rw [Document.raw, String.ofList_toList], rfl⟩

/-- A digit is no space, and begins nothing but a number. -/
theorem ne_of_isNumeral (hc : isNumeral c = true) :
    isSpace c = false ∧ c ≠ 'n' ∧ c ≠ 't' ∧ c ≠ 'f' ∧ c ≠ '-' ∧ c ≠ ']' := by
  have hne (x : Char) (hx : isNumeral x = false) : c ≠ x := by
    rintro rfl
    rw [hc] at hx
    cases hx
  refine ⟨?_, hne _ rfl, hne _ rfl, hne _ rfl, hne _ rfl, hne _ rfl⟩
  simp [isSpace, hne ' ' rfl, hne '\n' rfl, hne '\t' rfl, hne '\r' rfl]

/-- Where there is no space none is skipped. -/
theorem skip_cons (hc : isSpace c = false) : (Cursor.mk p (c :: cs)).skip = ⟨p, c :: cs⟩ := by
  simp [skip, skipFrom, hc]

/-- A word in decimal is read as that integer. -/
private theorem readsValue_int {n : Int} (hn : IsWord n) (hrest : IsBehindNumber rest) :
    ReadsValue (readValue (fuel + 1) d lead ⟨p, intChars n ++ rest⟩) (.int n) rest := by
  obtain ⟨hleast, hgreatest⟩ := hn
  have habs : n.natAbs ≤ maxWord := by
    rw [maxWord] at *
    omega
  rw [intChars]
  -- The sign is read before the digits, and a word without one begins with a digit.
  split_ifs with hneg
  · obtain ⟨q, hq⟩ := readNumber_toDigits habs hrest false (advance p '-')
    rw [if_neg (by decide), if_pos (by omega), Int.ofNat_natAbs_of_nonpos (by omega), Int.neg_neg]
      at hq
    have hskip : (Cursor.mk p (('-' :: Nat.toDigits 10 n.natAbs) ++ rest)).skip =
      ⟨p, '-' :: (Nat.toDigits 10 n.natAbs ++ rest)⟩ := rfl
    rw [readValue.eq_def]
    simp only [hskip, next, hq]
    exact ⟨_, q, rfl, rfl, rfl⟩
  · obtain ⟨q, hq⟩ := readNumber_toDigits habs hrest true p
    rw [if_pos rfl, Int.natAbs_of_nonneg (by omega)] at hq
    obtain ⟨c, cs, hcs⟩ := List.exists_cons_of_ne_nil
      (Nat.toDigits_ne_nil (n := n.natAbs) (b := 10))
    have hc : isNumeral c = true := by
      rw [isNumeral_eq_isDigit]
      exact Text.isDigit_of_mem_toDigits (n := n.natAbs) c (hcs ▸ List.mem_cons_self)
    obtain ⟨hspace, hn, ht, hf, hminus, -⟩ := ne_of_isNumeral hc
    rw [hcs, List.cons_append] at hq
    rw [hcs, List.cons_append, readValue.eq_def]
    simp only [skip_cons hspace, if_neg hn, if_neg ht, if_neg hf, if_neg hminus, hc, if_true, hq]
    exact ⟨_, q, rfl, rfl, rfl⟩

/-- The spelling of a floating-point number is read as that number. -/
private theorem readsValue_float {x : Binary64} (h : SpellsFloat x cs)
    (hrest : IsBehindNumber rest) :
    ReadsValue (readValue (fuel + 1) d lead ⟨p, cs ++ rest⟩) (.float x) rest := by
  cases h with
  | unsigned h =>
    obtain ⟨q, hq⟩ := h rest hrest p
    obtain ⟨c, cs, rfl, hc⟩ := h.exists_cons
    obtain ⟨hspace, hn, ht, hf, hminus, -⟩ := ne_of_isNumeral hc
    rw [List.cons_append] at hq
    rw [List.cons_append, readValue.eq_def]
    simp only [skip_cons hspace, if_neg hn, if_neg ht, if_neg hf, if_neg hminus, hc, if_true, hq]
    exact ⟨_, q, rfl, rfl, rfl⟩
  | @signed cs h =>
    obtain ⟨q, hq⟩ := h rest hrest (advance p '-')
    have hskip : (Cursor.mk p (('-' :: cs) ++ rest)).skip = ⟨p, '-' :: (cs ++ rest)⟩ := rfl
    rw [readValue.eq_def]
    simp only [hskip, next, hq]
    exact ⟨_, q, rfl, rfl, rfl⟩

/-- A spelling begins with no space and no closing bracket. -/
theorem Spells.exists_cons {j : Json} (h : Spells j cs) :
    ∃ c cs', cs = c :: cs' ∧ isSpace c = false ∧ c ≠ ']' := by
  cases h with
  -- Numbers begin with a digit or a sign, and every other value with a mark of its own.
  | int n =>
    rw [intChars]
    split_ifs
    · exact ⟨_, _, rfl, rfl, by decide⟩
    · obtain ⟨c, cs, hcs⟩ := List.exists_cons_of_ne_nil
        (Nat.toDigits_ne_nil (n := n.natAbs) (b := 10))
      have hc : isNumeral c = true := by
        rw [isNumeral_eq_isDigit]
        exact Text.isDigit_of_mem_toDigits (n := n.natAbs) c (hcs ▸ List.mem_cons_self)
      exact ⟨c, cs, hcs, (ne_of_isNumeral hc).1, (ne_of_isNumeral hc).2.2.2.2.2⟩
  | float h =>
    cases h with
    | unsigned h =>
      obtain ⟨c, cs, rfl, hc⟩ := h.exists_cons
      exact ⟨c, cs, rfl, (ne_of_isNumeral hc).1, (ne_of_isNumeral hc).2.2.2.2.2⟩
    | signed h => exact ⟨_, _, rfl, rfl, by decide⟩
  | _ => exact ⟨_, _, rfl, rfl, by decide⟩

/-- A value may have spaces in front of it. -/
theorem readsValue_of_gap {j : Json} {rest' : List Char} (hgap : IsSpacing gap)
    (hc : isSpace c = false)
    (h : ∀ p, ReadsValue (readValue fuel d lead ⟨p, c :: cs⟩) j rest') (p : Position) :
    ReadsValue (readValue fuel d lead ⟨p, gap ++ c :: cs⟩) j rest' := by
  obtain ⟨q, hq⟩ := exists_skip_eq (c :: cs) hgap (by simpa using hc) p
  cases fuel with
  | zero =>
    obtain ⟨_, _, hread, -⟩ := h p
    cases hread
  | succ fuel =>
    have heq : readValue (fuel + 1) d lead ⟨p, gap ++ c :: cs⟩ =
        readValue (fuel + 1) d lead ⟨q, c :: cs⟩ := by
      rw [readValue.eq_def, readValue.eq_def _ _ _ ⟨q, c :: cs⟩]
      simp only [hq, skip_cons hc]
    rw [heq]
    exact h q

/-- An array is read as the items behind its bracket. -/
private theorem readsValue_arr {items : List Json} {rest' : List Char}
    (h : ∀ p, ReadsItems (readItems fuel d true ⟨p, cs⟩) items rest') :
    ReadsValue (readValue (fuel + 1) (d + 1) lead ⟨p, '[' :: cs⟩) (.arr items) rest' := by
  obtain ⟨docs, q, hreads, hraws, hfaults⟩ := h (advance p '[')
  rw [readValue.eq_def]
  simp only [skip_cons (show isSpace '[' = false from rfl), next, hreads]
  exact ⟨.arr docs _, q, rfl, by rw [Document.raw, hraws], by rw [Document.fault?, hfaults]⟩

/-- An object is read as the fields behind its brace. -/
private theorem readsValue_obj {fields : List (String × Json)} {rest' : List Char}
    (h : ∀ p, ReadsEntries (readEntries fuel d true ⟨p, cs⟩) fields rest') :
    ReadsValue (readValue (fuel + 1) (d + 1) lead ⟨p, Char.ofNat 0x7B :: cs⟩) (.obj fields)
      rest' := by
  obtain ⟨docs, q, hreads, hraws, hfaults⟩ := h (advance p (Char.ofNat 0x7B))
  rw [readValue.eq_def]
  simp only [skip_cons (show isSpace (Char.ofNat 0x7B) = false from rfl), next, hreads]
  exact ⟨.obj docs _, q, rfl, by rw [Document.raw, hraws], by rw [Document.fault?, hfaults]⟩

/-! ### Items -/

/-- The reader steps over what precedes an item or a field to the first character of that part. -/
theorem exists_start_eq {first : Bool} {lead : List Char} (cs : List Char)
    (hlead : IsLead first lead) (hc : isSpace c = false) (p : Position) :
    ∃ x xs q q', (Cursor.mk p (lead ++ c :: cs)).skip = ⟨q, x :: xs⟩ ∧ (x = c ∨ x = ',') ∧
      (if first then some (Cursor.mk q (x :: xs))
        else if x = ',' then some (Cursor.mk q (x :: xs)).next.skip else none) =
        some ⟨q', c :: cs⟩ := by
  have hspace : ∀ x ∈ (c :: cs).head?, isSpace x = false := by simpa using hc
  cases hlead with
  | first hgap =>
    obtain ⟨q, hq⟩ := exists_skip_eq _ hgap hspace p
    exact ⟨c, cs, q, q, hq, .inl rfl, rfl⟩
  | @next gap gap' hgap hgap' =>
    obtain ⟨q, hq⟩ := exists_skip_eq (',' :: (gap' ++ c :: cs)) hgap (by simp [isSpace]) p
    obtain ⟨q', hq'⟩ := exists_skip_eq _ hgap' hspace (advance q ',')
    refine ⟨',', gap' ++ c :: cs, q, q', by simpa using hq, .inr rfl, ?_⟩
    simpa [next] using hq'

/-- A closing bracket ends the items. -/
private theorem readsItems_close {first : Bool} (hgap : IsSpacing gap) :
    ReadsItems (readItems (fuel + 1) d first ⟨p, gap ++ ']' :: rest⟩) [] rest := by
  obtain ⟨q, hq⟩ := exists_skip_eq (']' :: rest) hgap (by simp [isSpace]) p
  refine ⟨[], advance q ']', ?_, rfl, rfl⟩
  rw [readItems]
  simp only [hq, next, if_true]

/-- An item is read after what precedes it, and the other items after it. -/
theorem readsItems_cons {first : Bool} {lead rest' : List Char} {item : Json} {items : List Json}
    (hlead : IsLead first lead) (hc : isSpace c = false) (hclose : c ≠ ']')
    (hitem : ∀ lead p, ReadsValue (readValue fuel d lead ⟨p, c :: cs⟩) item rest')
    (hitems : ∀ p, ReadsItems (readItems fuel d false ⟨p, rest'⟩) items rest) :
    ReadsItems (readItems (fuel + 1) d first ⟨p, lead ++ c :: cs⟩) (item :: items) rest := by
  obtain ⟨x, xs, q₀, q, hskip, hx, hstart⟩ := exists_start_eq cs hlead hc p
  obtain ⟨doc, q', hread, hraw, hfault⟩ := hitem q q
  obtain ⟨docs, q'', hreads, hraws, hfaults⟩ := hitems q'
  have hx' : x ≠ ']' := by rcases hx with rfl | rfl <;> [exact hclose; decide]
  refine ⟨doc :: docs, q'', ?_, by rw [Document.rawItems, hraw, hraws],
    by rw [Document.faultInItems?, hfault, hfaults]; rfl⟩
  rw [readItems]
  simp only [hskip, if_neg hx', hstart, hread, hreads]
  simp [hclose]

/-! ### Fields -/

/-- A closing brace ends the fields. -/
private theorem readsEntries_close {first : Bool} (hgap : IsSpacing gap) :
    ReadsEntries (readEntries (fuel + 1) d first ⟨p, gap ++ Char.ofNat 0x7D :: rest⟩) [] rest := by
  obtain ⟨q, hq⟩ := exists_skip_eq (Char.ofNat 0x7D :: rest) hgap (by simp [isSpace]) p
  refine ⟨[], advance q (Char.ofNat 0x7D), ?_, rfl, rfl⟩
  rw [readEntries]
  simp only [hq, next]
  rfl

/-- A field is read after what precedes it, first its key and then its value, and the other fields
after it. -/
theorem readsEntries_cons {first : Bool} {lead gap rest' : List Char} {key : String} {value : Json}
    {fields : List (String × Json)} (hlead : IsLead first lead) (hgap : IsSpacing gap)
    (hvalue : ∀ lead p, ReadsValue (readValue fuel d lead ⟨p, cs⟩) value rest')
    (hfields : ∀ p, ReadsEntries (readEntries fuel d false ⟨p, rest'⟩) fields rest) :
    ReadsEntries
      (readEntries (fuel + 1) d first ⟨p, lead ++ (stringChars key ++ (gap ++ ':' :: cs))⟩)
      ((key, value) :: fields) rest := by
  have hchars : stringChars key ++ (gap ++ ':' :: cs) =
      '"' :: (key.toList.flatMap escapeChar ++ '"' :: (gap ++ ':' :: cs)) := by
    simp [stringChars]
  rw [hchars]
  obtain ⟨x, xs, q₀, q, hskip, hx, hstart⟩ :=
    exists_start_eq (key.toList.flatMap escapeChar ++ '"' :: (gap ++ ':' :: cs)) hlead
      (show isSpace '"' = false from rfl) p
  obtain ⟨q₁, hkey⟩ := exists_readString_stringChars key (gap ++ ':' :: cs) (advance q '"')
  rw [hchars] at hkey
  obtain ⟨q₂, hcolon⟩ := exists_skip_eq (':' :: cs) hgap (by simp [isSpace]) q₁
  obtain ⟨doc, q', hread, hraw, hfault⟩ := hvalue q₂ (advance q₂ ':')
  obtain ⟨docs, q'', hreads, hraws, hfaults⟩ := hfields q'
  have hx' : x.toNat ≠ 0x7D := by rcases hx with rfl | rfl <;> decide
  refine ⟨(key, doc) :: docs, q'', ?_, by rw [Document.rawEntries, hraw, hraws],
    by rw [Document.faultInEntries?, hfault, hfaults]; rfl⟩
  -- The reader has looked for the closing brace, the quote and the colon, in this order.
  rw [readEntries]
  have hquote : ¬ '"'.toNat = 0x7D := by decide
  simp only [hskip, if_neg hx', hstart]
  simp only [if_neg hquote, ne_eq, not_true_eq_false, if_false, next, hkey, hcolon, hread, hreads,
    String.ofList_toList]

/-! ### Whole values -/

/-- What closes or goes on a list is no part of a number, with spaces before it or none. -/
theorem isBehindNumber_append (hgap : IsSpacing gap)
    (hc : c = ',' ∨ c = ']' ∨ c = Char.ofNat 0x7D) : IsBehindNumber (gap ++ c :: cs) := by
  have hspace (x : Char) (hx : isSpace x = true) :
      isNumeral x = false ∧ x ≠ '.' ∧ x ≠ 'e' ∧ x ≠ 'E' := by
    have hx' : ((x = ' ' ∨ x = '\n') ∨ x = '\t') ∨ x = '\r' := by simpa [isSpace] using hx
    rcases hx' with ((rfl | rfl) | rfl) | rfl <;> decide
  intro x hx
  cases gap with
  | nil =>
    obtain rfl : c = x := by simpa using hx
    rcases hc with rfl | rfl | rfl <;> decide
  | cons g gap =>
    obtain rfl : g = x := by simpa using hx
    exact hspace g (hgap g (.head _))

/-- What leads to a further item is no part of a number. -/
theorem isBehindNumber_lead {lead : List Char} (hlead : IsLead false lead) :
    IsBehindNumber (lead ++ cs) := by
  cases hlead with
  | next hgap hgap' =>
    rw [List.append_assoc, List.cons_append]
    exact isBehindNumber_append hgap (.inl rfl)

/-- What follows an item is no part of a number. -/
theorem SpellsItems.isBehindNumber {items : List Json} (h : SpellsItems false items cs) :
    IsBehindNumber (cs ++ rest) := by
  cases h with
  | close hgap =>
    rw [List.append_assoc]
    exact isBehindNumber_append hgap (.inr (.inl rfl))
  | item hlead =>
    rw [List.append_assoc]
    exact isBehindNumber_lead hlead

/-- What follows a value of an object is no part of a number. -/
theorem SpellsFields.isBehindNumber {fields : List (String × Json)}
    (h : SpellsFields false fields cs) : IsBehindNumber (cs ++ rest) := by
  cases h with
  | close hgap =>
    rw [List.append_assoc]
    exact isBehindNumber_append hgap (.inr (.inr rfl))
  | field hlead =>
    rw [List.append_assoc]
    exact isBehindNumber_lead hlead

/-- No value is spelled by nothing. -/
theorem Spells.length_pos {j : Json} (h : Spells j cs) : 0 < cs.length := by
  obtain ⟨c, cs, rfl, -⟩ := h.exists_cons
  exact Nat.succ_pos _

/-- No list of items is spelled by nothing, since it is closed. -/
theorem SpellsItems.length_pos {first : Bool} {items : List Json} (h : SpellsItems first items cs) :
    0 < cs.length := by
  cases h with
  | close => simp
  | item _ h =>
    have := h.length_pos
    simp only [List.length_append]
    omega

/-- No list of fields is spelled by nothing, since it is closed. -/
theorem SpellsFields.length_pos {first : Bool} {fields : List (String × Json)}
    (h : SpellsFields first fields cs) : 0 < cs.length := by
  cases h with
  | close => simp
  | field =>
    simp only [List.length_append, List.length_cons]
    omega

mutual

/-- A spelling is read as the value that it spells, whatever comes after it. -/
theorem Spells.readsValue {j : Json} {cs : List Char} (h : Spells j cs) {fuel d : Nat}
    {rest : List Char} (hwords : j.HasWords) (hdepth : j.depth ≤ d) (hrest : IsBehindNumber rest)
    (hfuel : cs.length ≤ fuel) (lead p : Position) :
    ReadsValue (readValue fuel d lead ⟨p, cs ++ rest⟩) j rest := by
  obtain ⟨fuel, rfl⟩ := Nat.exists_eq_add_one.mpr (Nat.lt_of_lt_of_le h.length_pos hfuel)
  -- Fuel for every character is enough, and so are as many levels as the value has.
  match h with
  | .null => exact readsValue_null
  | .boolTrue => exact readsValue_true
  | .boolFalse => exact readsValue_false
  | .int n => exact readsValue_int (hwords n (.head _)) hrest
  | .float h => exact readsValue_float h hrest
  | .str s => exact readsValue_str s
  | .arr h =>
    cases d with
    | zero => cases hdepth
    | succ d =>
      exact readsValue_arr fun p => h.readsItems (hasWords_arr_iff.mp hwords)
        (depth_arr_le_iff.mp hdepth) (Nat.le_of_succ_le_succ hfuel) p
  | .obj h =>
    cases d with
    | zero => cases hdepth
    | succ d =>
      exact readsValue_obj fun p => h.readsEntries (hasWords_obj_iff.mp hwords)
        (depth_obj_le_iff.mp hdepth) (Nat.le_of_succ_le_succ hfuel) p
termination_by structural h

/-- A spelling of items is read as those items. -/
theorem SpellsItems.readsItems {first : Bool} {items : List Json} {cs : List Char}
    (h : SpellsItems first items cs) {fuel d : Nat} {rest : List Char}
    (hwords : ∀ item ∈ items, item.HasWords) (hdepth : ∀ item ∈ items, item.depth ≤ d)
    (hfuel : cs.length ≤ fuel) (p : Position) :
    ReadsItems (readItems fuel d first ⟨p, cs ++ rest⟩) items rest := by
  obtain ⟨fuel, rfl⟩ := Nat.exists_eq_add_one.mpr (Nat.lt_of_lt_of_le h.length_pos hfuel)
  match h with
  | .close hgap =>
    rw [List.append_assoc]
    exact readsItems_close hgap
  | @SpellsItems.item _ lead cs cs' item items hlead h hrest =>
    obtain ⟨hitem, hitems⟩ := List.forall_mem_cons.mp hwords
    obtain ⟨hdepth, hdepths⟩ := List.forall_mem_cons.mp hdepth
    simp only [List.length_append] at hfuel
    have hcs := h.length_pos
    have hcs' := hrest.length_pos
    have hbehind : IsBehindNumber (cs' ++ rest) := hrest.isBehindNumber
    -- The item is no longer than the text, and what is behind it is shorter.
    have hread (lead p : Position) :=
      h.readsValue hitem hdepth hbehind (by omega : cs.length ≤ fuel) lead p
    have hreads (p : Position) : ReadsItems (readItems fuel d false ⟨p, cs' ++ rest⟩) items rest :=
      hrest.readsItems hitems hdepths (by omega) p
    obtain ⟨c, cs, rfl, hspace, hclose⟩ := h.exists_cons
    simp only [List.append_assoc, List.cons_append] at hread ⊢
    exact readsItems_cons hlead hspace hclose hread hreads
termination_by structural h

/-- A spelling of fields is read as those fields. -/
theorem SpellsFields.readsEntries {first : Bool} {fields : List (String × Json)} {cs : List Char}
    (h : SpellsFields first fields cs) {fuel d : Nat} {rest : List Char}
    (hwords : ∀ field ∈ fields, field.2.HasWords) (hdepth : ∀ field ∈ fields, field.2.depth ≤ d)
    (hfuel : cs.length ≤ fuel) (p : Position) :
    ReadsEntries (readEntries fuel d first ⟨p, cs ++ rest⟩) fields rest := by
  obtain ⟨fuel, rfl⟩ := Nat.exists_eq_add_one.mpr (Nat.lt_of_lt_of_le h.length_pos hfuel)
  match h with
  | .close hgap =>
    rw [List.append_assoc]
    exact readsEntries_close hgap
  | @SpellsFields.field _ lead gap gap' cs cs' key value fields hlead hgap hgap' h hrest =>
    obtain ⟨hvalue, hfields⟩ := List.forall_mem_cons.mp hwords
    obtain ⟨hdepth, hdepths⟩ := List.forall_mem_cons.mp hdepth
    simp only [List.length_append, List.length_cons] at hfuel
    have hbehind : IsBehindNumber (cs' ++ rest) := hrest.isBehindNumber
    -- The value is no longer than the text, and what is behind it is shorter.
    have hread (lead p : Position) :=
      h.readsValue hvalue hdepth hbehind (by omega : cs.length ≤ fuel) lead p
    have hreads (p : Position) :
        ReadsEntries (readEntries fuel d false ⟨p, cs' ++ rest⟩) fields rest :=
      hrest.readsEntries hfields hdepths (by omega) p
    obtain ⟨c, cs, rfl, hspace, -⟩ := h.exists_cons
    simp only [List.append_assoc, List.cons_append] at hread ⊢
    exact readsEntries_cons hlead hgap
      (fun lead p => readsValue_of_gap hgap' hspace (hread lead) p) hreads
termination_by structural h

end

/-- A text that spells a value is a document of that value without a fault. -/
theorem exists_ofText_eq {j : Json} (h : Spells j cs) (hj : j.IsBounded maxDepth) :
    ∃ doc, Document.ofText (String.ofList cs) = (doc, none) ∧ doc.raw = j ∧ doc.fault? = none := by
  have hfuel : cs.length ≤ 2 * (String.ofList cs).length + 2 := by
    rw [String.length_ofList]
    omega
  have hend : IsBehindNumber [] := nofun
  obtain ⟨doc, q, hread, hraw, hfault⟩ :=
    h.readsValue hj.hasWords hj.depth_le hend hfuel ⟨1, 0⟩ ⟨1, 0⟩
  refine ⟨doc, ?_, hraw, hfault⟩
  rw [List.append_nil] at hread
  rw [Document.ofText, Cursor.ofText, String.toList_ofList]
  simp only [hread]
  rfl

variable {j : Json} {f : Binary64 → Binary64}

/-- The text of a value without spaces is a document of that value. -/
theorem exists_ofText_compact (hj : j.IsPortable maxDepth) :
    ∃ doc, Document.ofText j.compact = (doc, none) ∧ doc.raw = j ∧ doc.fault? = none := by
  have hspells := spells_compactChars (hj.hasNoFloats.readsFloatsBy id)
  rw [mapFloats_id] at hspells
  exact exists_ofText_eq hspells hj.toIsBounded

/-- The text of a value over indented lines is read as the value in canonical order, with the
floating-point numbers that the texts of its own are read as. -/
theorem parse_pretty_eq_mapFloats (hj : j.IsBounded maxDepth) (hf : ReadsFloatsBy f j) :
    parse j.pretty = .ok (j.mapFloats f).canonical := by
  obtain ⟨doc, hdoc, hraw, hfault⟩ :=
    exists_ofText_eq (spells_prettyChars hf 0) (hj.mapFloats f)
  rw [parse, pretty, hdoc]
  simp only [hfault, hraw]
  rfl

/-- The text of a value over indented lines is read as the value in canonical order. -/
theorem parse_pretty (hj : j.IsPortable maxDepth) : parse j.pretty = .ok j.canonical := by
  rw [parse_pretty_eq_mapFloats hj.toIsBounded (hj.hasNoFloats.readsFloatsBy id), mapFloats_id]

end PageScript.Json
