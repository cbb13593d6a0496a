import PageScript.Proofs.Grammar.Reading
import PageScript.Proofs.Line.Canonical

/-!
# Spellings of a verb

A verb may be written in capitals, as an alias, with colons behind it, and with more white space
around it and its arguments than is needed. The line is read all the same as if the verb, one space
and the arguments were written; only the text that is quoted in an error is that of the line.

* `normalize_line` — what a spelling of the verb comes to: of the arguments, only the ends are
  trimmed;
* `parse_line_of_spelling` — a line is read the same however its verb is spelled, and what is read
  of the arguments stands in them as it is written.
-/

namespace PageScript

open Text Line Grammar

/-! ### Lines -/

namespace Line

/-- A way to write a line with a verb: what stands around the arguments, and the word that is
written for the verb. -/
structure Spelling (verb : String) where
  /-- The white space in front. -/
  front : List Char
  /-- The word: the verb or an alias, in any case. -/
  word : List Char
  /-- The number of colons behind the word. -/
  colons : Nat
  /-- The white space in front of the arguments. -/
  gap : List Char
  /-- The white space at the end. -/
  back : List Char
  isBlank_front : ∀ c ∈ front, isBlank c = true
  canonicalVerb_word : canonicalVerb (String.ofList (lowerCase word)) = verb
  isGap_gap : IsGap gap
  isBlank_back : ∀ c ∈ back, isBlank c = true

/-- The line with these arguments. -/
def Spelling.line {verb : String} (s : Spelling verb) (arguments : String) : String :=
  String.ofList (s.front ++ (s.word ++ List.replicate s.colons ':') ++ s.gap ++ arguments.toList ++
    s.back)

/-- The aliases of verbs. -/
def aliases : List String :=
  ["goto", "navigate", "nav", "select", "scrollto", "getattribute", "getcomputedstyle", "executejs",
    "waitforselector", "toast"]

/-- A verb is canonical, or it is the other name of a verb. -/
theorem canonicalVerb_eq_self_or_mem_aliases (verb : String) :
    canonicalVerb verb = verb ∨ verb ∈ aliases := by
  unfold canonicalVerb
  split <;> first | exact .inl rfl | exact .inr (by decide)

/-- A verb or an alias of it is a word without a colon at its end. -/
theorem isWord_of_canonicalVerb_eq {verb lowered : List Char} (hverb : IsVerb verb)
    (h : canonicalVerb (String.ofList lowered) = String.ofList verb) :
    lowered ≠ [] ∧ (∀ c ∈ lowered, isBlank c = false) ∧ lowered.getLast? ≠ some ':' := by
  have haliases : ∀ name ∈ aliases, name.toList ≠ [] ∧
      name.toList.all (!isBlank ·) = true ∧ name.toList.getLast? ≠ some ':' := by decide
  rcases canonicalVerb_eq_self_or_mem_aliases (String.ofList lowered) with hself | halias
  · obtain rfl : lowered = verb := String.ofList_injective (hself.symm.trans h)
    have hcanonical := isCanonicalWord_verbOfWord lowered
    rw [hverb.verbOfWord_eq] at hcanonical
    exact ⟨hverb.ne_nil, hverb.not_isBlank, hcanonical.getLast?_ne⟩
  · obtain ⟨hne, hblank, hlast⟩ := haliases _ halias
    rw [String.toList_ofList] at hne hblank hlast
    exact ⟨hne, not_isBlank_of_all hblank, hlast⟩

/-- Colons after a word do not count. -/
theorem dropColons_append_replicate (word : List Char) (n : Nat) :
    dropColons (word ++ List.replicate n ':') = dropColons word := by
  have hcolons : ∀ c ∈ List.replicate n ':', decide (c = ':') = true := by
    intro c hc
    rw [List.eq_of_mem_replicate hc]
    rfl
  rw [dropColons, List.reverse_append, List.reverse_replicate,
    List.dropWhile_append_of_pos hcolons, dropColons]

namespace Spelling

variable {verb : String} (hverb : IsVerb verb.toList) (s : Spelling verb)
include hverb

/-- What is written for a verb is a word without a colon at its end. -/
theorem isWord_word :
    s.word ≠ [] ∧ (∀ c ∈ s.word, isBlank c = false) ∧ s.word.getLast? ≠ some ':' := by
  obtain ⟨hne, hblank, hlast⟩ := isWord_of_canonicalVerb_eq hverb
    (s.canonicalVerb_word.trans String.ofList_toList.symm)
  refine ⟨?_, ?_, ?_⟩
  · intro hnil
    rw [hnil] at hne
    exact hne rfl
  -- White space and colons have no case, so they would be left in the lowered word.
  · intro c hc
    rw [← Bool.not_eq_true]
    intro hcblank
    have := hblank c (mem_lowerAfter_of_isLowered (isLowered_of_isBlank hcblank) hc)
    rw [hcblank] at this
    cases this
  · exact fun hcolon => hlast (getLast?_lowerAfter_of_isLowered isLowered_colon hcolon)

/-- A spelling has the verb that it spells. -/
theorem verbOfWord_word :
    verbOfWord (s.word ++ List.replicate s.colons ':') = verb.toList := by
  obtain ⟨-, -, hlast⟩ := s.isWord_word hverb
  rw [verbOfWord, dropColons_append_replicate, dropColons_eq_self hlast, s.canonicalVerb_word]

/-- The normal form of a line has the verb as such, and of the arguments only the ends are
trimmed. -/
theorem normalize_line (arguments : String) :
    (normalize (s.line arguments)).toList = assemble verb.toList (trim arguments.toList) := by
  obtain ⟨hne, hblank, -⟩ := s.isWord_word hverb
  have hword : ∀ c ∈ s.word ++ List.replicate s.colons ':', isBlank c = false := by
    intro c hc
    rcases List.mem_append.mp hc with hc | hc
    · exact hblank c hc
    · rw [List.eq_of_mem_replicate hc]
      decide
  have hgap : ∀ tail, ∀ c ∈ (s.gap ++ tail).head?, isBlank c = true := by
    obtain ⟨c, gap, heq⟩ := List.exists_cons_of_ne_nil s.isGap_gap.1
    simpa [heq] using s.isGap_gap.2 c (by simp [heq])
  -- The white space at the end and in front of the arguments goes with that at their ends.
  have htrim : trim (s.gap ++ (arguments.toList ++ s.back)) = trim arguments.toList := by
    rw [trim_append_of_isBlank s.isGap_gap.2, ← trimStart_trimEnd,
      trimEnd_append_of_isBlank _ s.isBlank_back, trimStart_trimEnd]
  have hfront : normalChars (s.line arguments).toList =
      normalChars ((s.word ++ List.replicate s.colons ':') ++
        (s.gap ++ (arguments.toList ++ s.back))) := by
    rw [line, String.toList_ofList, normalChars_eq, normalChars_eq, firstWord, argumentsOf,
      firstWord, argumentsOf]
    simp only [List.append_assoc, trim_append_of_isBlank s.isBlank_front]
  rw [normalize, String.toList_ofList, hfront,
    normalChars_word_append (List.append_ne_nil_of_left_ne_nil hne _) hword (hgap _), htrim,
    s.verbOfWord_word hverb]

end Spelling

/-- The plain way to write a verb. -/
def Spelling.plain {verb : String} (hverb : IsVerb verb.toList) : Spelling verb where
  front := []
  word := verb.toList
  colons := 0
  gap := [' ']
  back := []
  isBlank_front := by simp
  canonicalVerb_word := by
    have hcanonical := isCanonicalWord_verbOfWord verb.toList
    rw [hverb.verbOfWord_eq] at hcanonical
    rw [hcanonical.lowerCase_eq, hcanonical.canonicalVerb_eq, String.ofList_toList]
  isGap_gap := isGap_space
  isBlank_back := by simp

/-- The plain spelling of a verb is the verb itself. -/
theorem Spelling.line_plain {verb : String} (hverb : IsVerb verb.toList) (arguments : String) :
    (plain hverb).line arguments = verb ++ " " ++ arguments := by
  simp [← String.toList_inj, Spelling.line, plain]

end Line

/-! ### Arguments -/

/-- The arguments of a text that fits a form stand in it as they are, behind its first character. -/
theorem Grammar.Form.Fits.isInfix_tail {slots : List Slot} {last : Option Slot} {cs : List Char}
    {values : Assignment} (h : Form.Fits slots last cs values) :
    ∀ value, some value ∈ values → value <:+: cs.tail := by
  -- There is a gap before every argument, so that the first character is no part of one.
  have hargument : ∀ {gap argument : List Char}, IsGap gap → ∀ rest,
      argument <:+: (gap ++ (argument ++ rest)).tail := by
    intro gap argument hgap rest
    rw [List.tail_append_of_ne_nil hgap.1]
    exact ⟨gap.tail, rest, by simp⟩
  induction h with
  | done => simp
  | absent => simp
  | @present _ gap argument hgap _ =>
    intro value hvalue
    obtain rfl : value = argument := by simpa using hvalue
    simpa using hargument hgap []
  | @needed _ _ _ gap argument rest _ hgap _ _ ih =>
    intro value hvalue
    rcases List.mem_cons.mp hvalue with heq | hvalue
    · obtain rfl : value = argument := by simpa using heq
      exact hargument hgap rest
    · rw [List.tail_append_of_ne_nil hgap.1]
      have hsuffix : rest.tail <:+ gap.tail ++ (argument ++ rest) :=
        (List.tail_suffix rest).trans
          ((List.suffix_append argument rest).trans (List.suffix_append _ _))
      exact (ih value hvalue).trans hsuffix.isInfix

/-- What is captured is part of the arguments. -/
theorem Grammar.Pattern.FitsArguments.isInfix_tail {p : Pattern} {cs : List Char}
    {values : Assignment} (h : p.FitsArguments cs values) :
    ∀ value, some value ∈ values → value <:+: cs.tail := by
  obtain ⟨before, form, after, own, -, hfits, rfl⟩ := h
  intro value hvalue
  have howned : some value ∈ own := by simpa [Pattern.placed, List.mem_replicate] using hvalue
  exact hfits.isInfix_tail value howned

/-! ### Reading -/

/-- The error with another line in the place of the one that it quotes. -/
def ParseError.quoting (line : String) : ParseError → ParseError
  | .malformed verb _ => .malformed verb (trimmed line)
  | e => e

namespace Command

/-- Lines of one normal form are read the same, but for the line that an error quotes. -/
theorem parse_of_normalize_eq {line line' : String} (h : normalize line = normalize line') :
    parse line = (parse line').mapError (.quoting line) := by
  rw [parse, parse, h]
  dsimp only
  split
  · rfl
  · split
    · rfl
    · split
      · rfl
      · split
        · rfl
        · split <;> rfl

/-- A line is read the same however its verb is spelled, but for the line that an error quotes. Of
the arguments, only the ends are trimmed, and what a rule reads of them stands in them as it is
written. -/
theorem parse_line_of_spelling {verb : String} (hverb : IsVerb verb.toList) (s : Spelling verb)
    (arguments : String) :
    parse (s.line arguments) =
        (parse (verb ++ " " ++ arguments)).mapError (.quoting (s.line arguments)) ∧
      (normalize (s.line arguments)).toList = assemble verb.toList (trim arguments.toList) ∧
      ∀ r, ruleFor? verb = some r → ∀ written,
        r.pattern.assign? (normalize (s.line arguments)).toList = some written →
          ∀ value, some value ∈ written → value <:+: trim arguments.toList := by
  have hline := s.normalize_line hverb arguments
  have hplain := (Spelling.plain hverb).normalize_line hverb arguments
  rw [Spelling.line_plain] at hplain
  refine ⟨parse_of_normalize_eq (String.toList_inj.mp (hline.trans hplain.symm)), hline, ?_⟩
  intro r hr written hwritten value hvalue
  have hhead := not_isBlank_of_mem_head?_trim arguments.toList
  have hnormal : ruleFor? (Line.verb (normalize (s.line arguments))) = some r := by
    rw [← String.ofList_toList (s := normalize (s.line arguments)), hline,
      verb_ofList_assemble hverb.ne_nil hverb.not_isBlank hhead, String.ofList_toList, hr]
  obtain ⟨cs, hcs, hfits⟩ := (Rule.assign?_eq_some_iff hnormal).mp hwritten
  obtain ⟨-, rfl⟩ := Rule.mem_rules_of_ruleFor? hr
  -- What follows the verb is a space and the trimmed arguments, or nothing.
  rw [hline, assemble_eq_append] at hcs
  obtain rfl : assemble [] (trim arguments.toList) = cs := List.append_cancel_left hcs
  have htail : (assemble [] (trim arguments.toList)).tail = trim arguments.toList := by
    cases trim arguments.toList <;> rfl
  exact htail ▸ hfits.isInfix_tail value hvalue

/-- A verb in capitals, the last of which is a Kelvin sign, and with colons and other white space
than spaces. -/
def clickInCapitals : Spelling "click" where
  front := ['\u00A0']
  word := ['C', 'L', 'I', 'C', '\u212A']
  colons := 2
  gap := ['\t', '\u3000']
  back := ['\n']
  isBlank_front := List.forall_mem_singleton.mpr (by decide)
  canonicalVerb_word := by decide +kernel
  isGap_gap := ⟨by simp, by simpa using And.intro (by decide) (by decide)⟩
  isBlank_back := List.forall_mem_singleton.mpr (by decide)

/-- A verb may be spelt in capitals and with colons. -/
theorem parse_line_of_spelling_click :
    IsVerb "click".toList ∧ parse (clickInCapitals.line "#A \"B  C\"") =
      .ok (.click "#A" (some "B  C")) := by
  have hverb : IsVerb "click".toList := ⟨by decide, not_isBlank_of_all (by decide), by decide⟩
  refine ⟨hverb, ?_⟩
  rw [(parse_line_of_spelling hverb clickInCapitals "#A \"B  C\"").1]
  rfl

end Command

end PageScript
