import PageScript.Json.Reader
import PageScript.Proofs.Text.Digit

/-!
# Reading numbers

The reader takes the digits in front of it for as long as a significand of sixty-four bits has room
for them, and then goes by what comes behind them. As long as there is room for all digits, the
parts of a number with a fraction and an exponent are what they say.

* `Json.readNumber_toDigits` — integers are read back;
* `Json.SpellsFloat` — the characters that are read as a binary64 number;
* `Json.readsFloat_point`, `Json.readsFloat_exponent`, `Json.readsFloat_point_exponent` — digits with
  a fraction, with an exponent, and with both.
-/

namespace PageScript.Json

variable {rest ds : List Char} {n : Nat}

/-- What comes after a number is no part of it. -/
def IsBehindNumber (rest : List Char) : Prop :=
  ∀ c ∈ rest.head?, isNumeral c = false ∧ c ≠ '.' ∧ c ≠ 'e' ∧ c ≠ 'E'

/-- The numerals of the reader are the decimal digits. -/
theorem isNumeral_eq_isDigit (c : Char) : isNumeral c = c.isDigit := by
  simp [isNumeral, Char.isDigit, Char.le_def]

/-- Further digits make a number no smaller. -/
theorem le_ofDigitChars (ds : List Char) (n : Nat) : n ≤ Nat.ofDigitChars 10 ds n := by
  induction ds generalizing n with
  | nil => simp
  | cons d ds ih =>
    rw [Nat.ofDigitChars_cons]
    exact Nat.le_trans (by omega) (ih _)

/-- Digits are all taken into a significand that fits 64 bits with them. -/
theorem accumulate_eq {ds : List Char} {n : Nat} (h : Nat.ofDigitChars 10 ds n ≤ maxWord) :
    accumulate n ds = (Nat.ofDigitChars 10 ds n, ds.length) := by
  induction ds generalizing n with
  | nil => simp [accumulate]
  | cons d ds ih =>
    have hzero : '0'.toNat = 48 := rfl
    rw [Nat.ofDigitChars_cons, Nat.mul_comm, hzero] at h ⊢
    have hfits : ¬ maxWord < n * 10 + (d.toNat - 48) :=
      Nat.not_lt.mpr (Nat.le_trans (le_ofDigitChars ds _) h)
    rw [accumulate]
    simp only [if_neg hfits, ih h, List.length_cons]

/-- A number that is not zero has no leading zero. -/
theorem head?_toDigits_ne {n : Nat} (h : 0 < n) : (Nat.toDigits 10 n).head? ≠ some '0' := by
  induction n using Nat.strongRecOn with
  | ind n ih =>
    rcases Nat.lt_or_ge n 10 with hlt | hge
    · have hdigit : ∀ n < 10, 0 < n → [n.digitChar].head? ≠ some '0' := by decide
      rw [Nat.toDigits_of_lt_base hlt]
      exact hdigit n hlt h
    · have happend := Nat.toDigits_append_toDigits (b := 10) (n := n / 10) (d := n % 10) (by decide)
        (by omega) (Nat.mod_lt n (by decide))
      rw [Nat.div_add_mod] at happend
      obtain ⟨c, cs, hcs⟩ := List.exists_cons_of_ne_nil
        (Nat.toDigits_ne_nil (n := n / 10) (b := 10))
      have hrest := ih (n / 10) (by omega) (by omega)
      rw [← happend]
      rw [hcs] at hrest ⊢
      exact hrest

/-- A number is written in numerals. -/
theorem isNumeral_of_mem_toDigits (n : Nat) : ∀ c ∈ Nat.toDigits 10 n, isNumeral c = true := by
  intro c hc
  rw [isNumeral_eq_isDigit]
  exact Text.isDigit_of_mem_toDigits c hc

/-- The digits in front of what is no digit are read. -/
theorem readDigits_append (hds : ∀ c ∈ ds, isNumeral c = true)
    (hrest : ∀ c ∈ rest.head?, isNumeral c = false) (p : Position) :
    readDigits ⟨p, ds ++ rest⟩ = (ds, ⟨⟨p.line, p.column + ds.length⟩, rest⟩) := by
  simp [readDigits, Text.takeWhile_run hds hrest, Text.dropWhile_run hds hrest]

/-! ### The digits of a number -/

/-- Digits at the front of a number: some, without a leading zero, and few enough for a significand
of 64 bits. -/
structure IsLeading (ds : List Char) : Prop where
  ne_nil : ds ≠ []
  isNumeral : ∀ c ∈ ds, isNumeral c = true
  noLeadingZero : ds.head? = some '0' → ds.length = 1
  fits : Nat.ofDigitChars 10 ds 0 ≤ maxWord

/-- A word is written in the digits that a number may begin with. -/
theorem isLeading_toDigits (h : n ≤ maxWord) : IsLeading (Nat.toDigits 10 n) where
  ne_nil := Nat.toDigits_ne_nil
  isNumeral := isNumeral_of_mem_toDigits n
  noLeadingZero hhead := by
    rcases Nat.eq_zero_or_pos n with rfl | hpos
    · rfl
    · exact absurd hhead (head?_toDigits_ne hpos)
  fits := by rwa [Nat.ofDigitChars_ten_toDigits]

/-- The rest of a number whose digits have all been taken into the significand. -/
def readBehindDigits (positive : Bool) (significand : Nat) (c : Cursor) :
    Except Broken (Numeral × Cursor) :=
  match c.rest with
  | '.' :: _ => readFraction positive significand 0 c
  | 'e' :: _ | 'E' :: _ => readExponent positive significand 0 c
  | _ =>
    if positive then .ok (.int significand, c)
    else if 0 < significand ∧ significand ≤ 9223372036854775808 then
      .ok (.int (-(significand : Int)), c)
    else .ok (.float (Binary64.ofRatio true significand 1), c)

/-- The digits in front are read as far as they go, with a leading zero alone. -/
theorem exists_readNumber_eq (hds : IsLeading ds) (positive : Bool) (p : Position)
    (rest : List Char) (hrest : ∀ c ∈ rest.head?, isNumeral c = false) :
    ∃ q, readNumber positive ⟨p, ds ++ rest⟩ =
      readBehindDigits positive (Nat.ofDigitChars 10 ds 0) ⟨q, rest⟩ := by
  have hread := readDigits_append hds.isNumeral hrest p
  have hvalue := accumulate_eq hds.fits
  obtain ⟨d, ds, rfl⟩ := List.exists_cons_of_ne_nil hds.ne_nil
  refine ⟨⟨p.line, p.column + (d :: ds).length⟩, ?_⟩
  have hd : isNumeral d = true := hds.isNumeral d (.head _)
  have hzero : ¬ (d = '0' ∧ 1 < (d :: ds).length) := by
    rintro ⟨rfl, hlength⟩
    exact absurd (hds.noLeadingZero rfl) (Nat.ne_of_gt hlength)
  rw [readNumber]
  simp only [List.cons_append] at hread ⊢
  simp only [hd, hread, hvalue, if_neg hzero, Bool.not_true, Bool.false_eq_true, if_false,
    Int.sub_self, ne_eq, not_true_eq_false]
  rfl

/-- Behind the digits a point leads to the fraction. -/
private theorem readBehindDigits_point (positive : Bool) (significand : Nat) (p : Position)
    (rest : List Char) :
    readBehindDigits positive significand ⟨p, '.' :: rest⟩ =
      readFraction positive significand 0 ⟨p, '.' :: rest⟩ :=
  rfl

/-- Behind the digits a letter leads to the exponent. -/
private theorem readBehindDigits_exponent (positive : Bool) (significand : Nat) (p : Position)
    (rest : List Char) :
    readBehindDigits positive significand ⟨p, 'e' :: rest⟩ =
      readExponent positive significand 0 ⟨p, 'e' :: rest⟩ :=
  rfl

/-- A number is read up to where its digits end. -/
theorem readNumber_toDigits (hn : n ≤ maxWord) (hrest : IsBehindNumber rest) (positive : Bool)
    (p : Position) :
    ∃ q, readNumber positive ⟨p, Nat.toDigits 10 n ++ rest⟩ =
      if positive then .ok (.int n, ⟨q, rest⟩)
      else if 0 < n ∧ n ≤ 9223372036854775808 then .ok (.int (-(n : Int)), ⟨q, rest⟩)
      else .ok (.float (Binary64.ofRatio true n 1), ⟨q, rest⟩) := by
  obtain ⟨q, hq⟩ := exists_readNumber_eq (isLeading_toDigits hn) positive p rest
    fun c hc => (hrest c hc).1
  refine ⟨q, ?_⟩
  rw [hq, Nat.ofDigitChars_ten_toDigits, readBehindDigits]
  -- What is behind the digits is no point and no exponent, so the number is an integer.
  cases rest with
  | nil => rfl
  | cons c cs =>
    obtain ⟨-, hdot, he, hE⟩ := hrest c rfl
    split
    · exact absurd (List.cons.inj ‹_›).1 hdot
    · exact absurd (List.cons.inj ‹_›).1 he
    · exact absurd (List.cons.inj ‹_›).1 hE
    · rfl

/-! ### Fractions and exponents -/

variable {positive : Bool} {significand : Nat} {e : Int} {p : Position}

/-- A fraction whose digits there is room for makes the significand longer and the exponent
smaller. -/
theorem exists_readFraction_eq (positive : Bool) (e : Int) (p : Position) (hne : ds ≠ [])
    (hds : ∀ c ∈ ds, isNumeral c = true)
    (hfits : Nat.ofDigitChars 10 ds significand ≤ maxWord)
    (hrest : ∀ c ∈ rest.head?, isNumeral c = false) :
    ∃ q, readFraction positive significand e ⟨p, '.' :: (ds ++ rest)⟩ =
      readTail positive (Nat.ofDigitChars 10 ds significand) (e - ds.length) ⟨q, rest⟩ := by
  refine ⟨⟨(Cursor.advance p '.').line, (Cursor.advance p '.').column + ds.length⟩, ?_⟩
  rw [readFraction]
  simp only [Cursor.next, readDigits_append hds hrest, accumulate_eq hfits]
  rw [if_neg (by simpa using hne)]

/-- Behind a number there is no exponent. -/
theorem readTail_eq_finish (hrest : IsBehindNumber rest) :
    readTail positive significand e ⟨p, rest⟩ = finish positive significand e ⟨p, rest⟩ := by
  rw [readTail]
  cases rest with
  | nil => rfl
  | cons c cs =>
    obtain ⟨-, -, he, hE⟩ := hrest c rfl
    split
    · exact absurd (List.cons.inj ‹_›).1 he
    · exact absurd (List.cons.inj ‹_›).1 hE
    · rfl

/-- Digits that are read one by one make the number they spell. -/
private theorem foldl_eq_ofDigitChars (ds : List Char) (n : Nat) :
    ds.foldl (fun n d => n * 10 + (d.toNat - 48)) n = Nat.ofDigitChars 10 ds n := by
  induction ds generalizing n with
  | nil => simp
  | cons d ds ih =>
    rw [List.foldl_cons, ih, Nat.ofDigitChars_cons, Nat.mul_comm 10]
    rfl

/-- A signed exponent is added. -/
theorem exists_readExponent_eq (positive : Bool) (significand : Nat) (e : Int) (p : Position)
    (hn : (n : Int) ≤ maxExponent) (up : Bool)
    (hrest : ∀ c ∈ rest.head?, isNumeral c = false) :
    ∃ q, readExponent positive significand e
        ⟨p, 'e' :: (if up then '+' else '-') :: (Nat.toDigits 10 n ++ rest)⟩ =
      finish positive significand (if up then e + n else e - n) ⟨q, rest⟩ := by
  have hread (p : Position) := readDigits_append (isNumeral_of_mem_toDigits n) hrest p
  have hvalue := foldl_eq_ofDigitChars (Nat.toDigits 10 n) 0
  rw [Nat.ofDigitChars_ten_toDigits] at hvalue
  obtain ⟨d, ds, hds⟩ := List.exists_cons_of_ne_nil (Nat.toDigits_ne_nil (n := n) (b := 10))
  have hd : isNumeral d = true := isNumeral_of_mem_toDigits n d (hds ▸ .head _)
  -- The reader asks for a first digit before it reads the others.
  rw [hds] at hread hvalue ⊢
  rw [List.cons_append] at hread ⊢
  cases up <;>
  · rw [readExponent]
    simp only [Cursor.next, hread, hvalue, hd, Bool.not_true, Bool.false_eq_true, if_false, if_true,
      if_neg (Int.not_lt.mpr hn)]
    exact ⟨_, rfl⟩

/-! ### Binary64 numbers -/

/-- The characters behind the sign of a number are read as a binary64 number, wherever they
stand. -/
def ReadsFloat (positive : Bool) (cs : List Char) (x : Binary64) : Prop :=
  ∀ rest, IsBehindNumber rest → ∀ p, ∃ q,
    readNumber positive ⟨p, cs ++ rest⟩ = .ok (.float x, ⟨q, rest⟩)

/-- The characters are read as a binary64 number, with a minus sign if they begin with one. -/
inductive SpellsFloat : Binary64 → List Char → Prop
  | unsigned {x : Binary64} {cs : List Char} (h : ReadsFloat true cs x) : SpellsFloat x cs
  | signed {x : Binary64} {cs : List Char} (h : ReadsFloat false cs x) : SpellsFloat x ('-' :: cs)

variable {x : Binary64} {cs ds' : List Char}

/-- A number begins with a digit. -/
theorem ReadsFloat.exists_cons (h : ReadsFloat positive cs x) :
    ∃ c cs', cs = c :: cs' ∧ isNumeral c = true := by
  have hend : IsBehindNumber [] := by simp [IsBehindNumber]
  obtain ⟨q, hq⟩ := h [] hend ⟨1, 0⟩
  cases cs with
  | nil => cases hq
  | cons c cs =>
    refine ⟨c, cs, rfl, ?_⟩
    by_contra hc
    have hc : isNumeral c = false := by simpa using hc
    rw [List.append_nil, readNumber] at hq
    simp only [hc, Bool.not_false, if_true] at hq
    cases hq

variable {y : Binary64}

/-- A decimal that can be rounded is finished as the rounded number, with its sign. -/
theorem finish_eq (h : Binary64.ofDecimal? significand e = some y) (c : Cursor) :
    finish positive significand e c = .ok (.float (if positive then y else y.neg), c) := by
  rw [finish, h]

/-- Digits, a point and more digits are read as one significand, with the digits behind the point
counted off. -/
theorem exists_readNumber_point_eq (hds : IsLeading ds) (hne : ds' ≠ [])
    (hds' : ∀ c ∈ ds', isNumeral c = true) (hfits : Nat.ofDigitChars 10 (ds ++ ds') 0 ≤ maxWord)
    (positive : Bool) (p : Position) (rest : List Char)
    (hrest : ∀ c ∈ rest.head?, isNumeral c = false) :
    ∃ q, readNumber positive ⟨p, ds ++ '.' :: (ds' ++ rest)⟩ =
      readTail positive (Nat.ofDigitChars 10 (ds ++ ds') 0) (-ds'.length) ⟨q, rest⟩ := by
  rw [Nat.ofDigitChars_append] at hfits ⊢
  obtain ⟨q, hq⟩ := exists_readNumber_eq hds positive p ('.' :: (ds' ++ rest))
    (by simp [isNumeral])
  obtain ⟨q', hq'⟩ := exists_readFraction_eq positive 0 q hne hds' hfits hrest
  rw [Int.zero_sub] at hq'
  exact ⟨q', by rw [hq, readBehindDigits_point, hq']⟩

/-- Digits around a point are read as the rounding of the decimal they spell. -/
theorem readsFloat_point (hds : IsLeading ds) (hne : ds' ≠ [])
    (hds' : ∀ c ∈ ds', isNumeral c = true) (hfits : Nat.ofDigitChars 10 (ds ++ ds') 0 ≤ maxWord)
    (h : Binary64.ofDecimal? (Nat.ofDigitChars 10 (ds ++ ds') 0) (-ds'.length) = some y)
    (positive : Bool) :
    ReadsFloat positive (ds ++ '.' :: ds') (if positive then y else y.neg) := by
  intro rest hrest p
  obtain ⟨q, hq⟩ := exists_readNumber_point_eq hds hne hds' hfits positive p rest
    fun c hc => (hrest c hc).1
  refine ⟨q, ?_⟩
  rw [List.append_assoc, List.cons_append, hq, readTail_eq_finish hrest, finish_eq h]

/-- An exponent behind a number with a fraction is added to what is counted off. -/
theorem readsFloat_point_exponent (hds : IsLeading ds) (hne : ds' ≠ [])
    (hds' : ∀ c ∈ ds', isNumeral c = true) (hfits : Nat.ofDigitChars 10 (ds ++ ds') 0 ≤ maxWord)
    (hn : (n : Int) ≤ maxExponent) (up : Bool)
    (h : Binary64.ofDecimal? (Nat.ofDigitChars 10 (ds ++ ds') 0)
      (if up then -ds'.length + n else -ds'.length - n) = some y)
    (positive : Bool) :
    ReadsFloat positive
      (ds ++ '.' :: (ds' ++ 'e' :: (if up then '+' else '-') :: Nat.toDigits 10 n))
      (if positive then y else y.neg) := by
  intro rest hrest p
  obtain ⟨q, hq⟩ := exists_readNumber_point_eq hds hne hds' hfits positive p
    ('e' :: (if up then '+' else '-') :: (Nat.toDigits 10 n ++ rest)) (by simp [isNumeral])
  obtain ⟨q', hq'⟩ := exists_readExponent_eq positive (Nat.ofDigitChars 10 (ds ++ ds') 0)
    (-ds'.length) q hn up fun c hc => (hrest c hc).1
  -- The fraction has moved the point, and the exponent moves it on from there.
  refine ⟨q', ?_⟩
  simp only [List.append_assoc, List.cons_append]
  rw [hq]
  exact hq'.trans (finish_eq h _)

/-- Digits with an exponent behind them are read as the rounding of the decimal they spell. -/
theorem readsFloat_exponent (hds : IsLeading ds) (hn : (n : Int) ≤ maxExponent) (up : Bool)
    (h : Binary64.ofDecimal? (Nat.ofDigitChars 10 ds 0) (if up then 0 + n else 0 - n) = some y)
    (positive : Bool) :
    ReadsFloat positive (ds ++ 'e' :: (if up then '+' else '-') :: Nat.toDigits 10 n)
      (if positive then y else y.neg) := by
  intro rest hrest p
  obtain ⟨q, hq⟩ := exists_readNumber_eq hds positive p
    ('e' :: (if up then '+' else '-') :: (Nat.toDigits 10 n ++ rest)) (by simp [isNumeral])
  obtain ⟨q', hq'⟩ := exists_readExponent_eq positive (Nat.ofDigitChars 10 ds 0) 0 q hn up
    fun c hc => (hrest c hc).1
  refine ⟨q', ?_⟩
  simp only [List.append_assoc, List.cons_append]
  rw [hq, readBehindDigits_exponent, hq', finish_eq h]

end PageScript.Json
