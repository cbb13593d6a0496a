import PageScript.Line
import PageScript.Proofs.Text.LowerCase

/-!
# Normal forms of lines

The normal form of a line is a verb without white space and, if there is more, one space and the
arguments, which do not begin with white space. A line that begins with a verb in normal form keeps
it, and its arguments are only trimmed.

* `exists_normalChars_eq` — the shape of every normal form;
* `verb_ofList_assemble` — the verb is read back from a normal form;
* `normalChars_word_append` — the normal form of a line that begins with a word;
* `argumentPart_append` — what follows the verb stays as it is when it is one space and a text
  without white space at its ends.
-/

namespace PageScript.Line

open Text

/-- A verb, and a space before its arguments if there are any. -/
def assemble (verb arguments : List Char) : List Char :=
  match arguments with
  | [] => verb
  | _ => verb ++ ' ' :: arguments

/-- Without arguments there is only the verb. -/
@[simp]
theorem assemble_nil (verb : List Char) : assemble verb [] = verb := rfl

/-- With arguments there is a space in between. -/
theorem assemble_of_ne_nil {arguments : List Char} (h : arguments ≠ []) (verb : List Char) :
    assemble verb arguments = verb ++ ' ' :: arguments := by
  cases arguments with
  | nil => exact absurd rfl h
  | cons c cs => rfl

/-- What follows the verb is nothing, or a space and arguments that do not begin with white
space. -/
def IsArgumentPart (cs : List Char) : Prop :=
  cs = [] ∨ ∃ arguments, cs = ' ' :: arguments ∧ ∀ c ∈ arguments.head?, isBlank c = false

/-- What comes behind the verb does not depend on the verb. -/
theorem exists_assemble_eq_append {arguments : List Char}
    (h : ∀ c ∈ arguments.head?, isBlank c = false) :
    ∃ part, IsArgumentPart part ∧ ∀ verb, assemble verb arguments = verb ++ part := by
  cases arguments with
  | nil => exact ⟨[], .inl rfl, by simp⟩
  | cons c cs => exact ⟨' ' :: c :: cs, .inr ⟨_, rfl, h⟩, fun verb => rfl⟩

/-- What comes behind the verb starts with a blank, if there is anything. -/
theorem IsArgumentPart.isBlank_of_mem_head? {cs : List Char} (h : IsArgumentPart cs) :
    ∀ c ∈ cs.head?, isBlank c = true := by
  rcases h with rfl | ⟨arguments, rfl, -⟩
  · simp
  · intro c hc
    rw [← Option.some.inj hc]
    decide

/-! ### The shape of a normal form -/

/-- Dropping colons adds no character. -/
private theorem mem_of_mem_dropColons {word : List Char} {c : Char} (h : c ∈ dropColons word) :
    c ∈ word := by
  rw [dropColons, List.mem_reverse] at h
  exact List.mem_reverse.mp ((List.dropWhile_sublist _).mem h)

/-- A canonical verb has no blank if the verb has none. -/
private theorem not_isBlank_of_mem_canonicalVerb {verb : String}
    (h : ∀ c ∈ verb.toList, isBlank c = false) :
    ∀ c ∈ (canonicalVerb verb).toList, isBlank c = false := by
  unfold canonicalVerb
  split <;> first | exact not_isBlank_of_all (by decide) | exact h

/-- The verb that a word without white space stands for holds no white space. -/
theorem not_isBlank_of_mem_verbOfWord {word : List Char}
    (h : ∀ c ∈ word, isBlank c = false) : ∀ c ∈ verbOfWord word, isBlank c = false := by
  apply not_isBlank_of_mem_canonicalVerb
  rw [String.toList_ofList]
  exact not_isBlank_of_mem_lowerCase fun c hc => h c (mem_of_mem_dropColons hc)

/-- The normal form of a line is made of its first word and of what follows it. -/
theorem normalChars_eq_assemble {cs : List Char} (h : trim cs ≠ []) :
    normalChars cs =
      assemble (verbOfWord (splitWord (trim cs)).1) (trimStart (splitWord (trim cs)).2) := by
  unfold normalChars
  split
  · next hnil => exact absurd hnil h
  · dsimp only
    split
    · next h => rw [h, assemble_nil]
    · next h => rw [assemble_of_ne_nil h]

/-- The word that is split off has no blank. -/
theorem not_isBlank_of_mem_splitWord (cs : List Char) :
    ∀ c ∈ (splitWord cs).1, isBlank c = false := by
  intro c hc
  rw [splitWord, List.span_eq_takeWhile_dropWhile] at hc
  simpa using List.mem_takeWhile_imp hc

/-- A normal form is a verb without white space and arguments that do not begin with it. -/
theorem exists_normalChars_eq (cs : List Char) :
    ∃ verb arguments, normalChars cs = assemble verb arguments ∧
      (∀ c ∈ verb, isBlank c = false) ∧ ∀ c ∈ arguments.head?, isBlank c = false := by
  by_cases h : trim cs = []
  · exact ⟨[], [], by simp [normalChars, h]⟩
  · exact ⟨_, _, normalChars_eq_assemble h,
      not_isBlank_of_mem_verbOfWord (not_isBlank_of_mem_splitWord _), not_of_mem_head?_dropWhile _⟩

/-- The verb of a normal form that begins with one. -/
theorem verb_ofList_assemble {verb arguments : List Char} (hne : verb ≠ [])
    (h : ∀ c ∈ verb, isBlank c = false) (harguments : ∀ c ∈ arguments.head?, isBlank c = false) :
    Line.verb (String.ofList (assemble verb arguments)) = String.ofList verb := by
  obtain ⟨part, hpart, heq⟩ := exists_assemble_eq_append harguments
  have hhead : ∀ c ∈ (verb ++ part).head?, isBlank c = false := by
    obtain ⟨c, cs, rfl⟩ := List.exists_cons_of_ne_nil hne
    simpa using h c (by simp)
  rw [Line.verb, String.toList_ofList, heq, trimStart_eq_self hhead, splitWord, span_run]
  · simpa using h
  · simpa using hpart.isBlank_of_mem_head?

/-! ### Lines that begin with a verb in normal form -/

/-- A verb that normal forms leave as it is. -/
structure IsVerb (verb : List Char) : Prop where
  ne_nil : verb ≠ []
  not_isBlank : ∀ c ∈ verb, isBlank c = false
  verbOfWord_eq : verbOfWord verb = verb

/-- The normal form of a line that begins with a word: what follows the word is trimmed. -/
theorem normalChars_word_append {word tail : List Char} (hne : word ≠ [])
    (hword : ∀ c ∈ word, isBlank c = false) (htail : ∀ c ∈ tail.head?, isBlank c = true) :
    normalChars (word ++ tail) = assemble (verbOfWord word) (trim tail) := by
  have hstart : ∀ c ∈ (word ++ tail).head?, isBlank c = false := by
    obtain ⟨c, cs, rfl⟩ := List.exists_cons_of_ne_nil hne
    simpa using hword c (by simp)
  have hend : ∀ c ∈ word.getLast?, isBlank c = false := fun c hc =>
    hword c (List.mem_of_getLast? hc)
  -- The blanks in front are gone already, and those at the end are no part of the word.
  have htrim : trim (word ++ tail) = word ++ trimEnd tail := by
    rw [trim, trimStart_eq_self hstart, trimEnd_append hend]
  have hrest : ∀ c ∈ (trimEnd tail).head?, isBlank c = true := fun c hc =>
    htail c (mem_head?_of_mem_head?_trimEnd hc)
  have hsplit : splitWord (word ++ trimEnd tail) = (word, trimEnd tail) := by
    apply span_run
    · simpa using hword
    · simpa using hrest
  have hline : trim (word ++ tail) ≠ [] := by
    rw [htrim]
    exact List.append_ne_nil_of_left_ne_nil hne _
  rw [normalChars_eq_assemble hline, htrim, hsplit, trimStart_trimEnd]

/-- A line that begins with a verb in normal form keeps it, and what follows is trimmed. -/
theorem normalChars_verb_append {verb tail : List Char} (hverb : IsVerb verb)
    (htail : ∀ c ∈ tail.head?, isBlank c = true) :
    normalChars (verb ++ tail) = assemble verb (trimStart (trimEnd tail)) := by
  rw [normalChars_word_append hverb.ne_nil hverb.not_isBlank htail, hverb.verbOfWord_eq,
    trimStart_trimEnd]

/-- What follows the verb in the normal form of a line that begins with a verb and `tail`. -/
def argumentPart (tail : List Char) : List Char :=
  assemble [] (trimStart (trimEnd tail))

/-- The verb is put in front of what its arguments alone make. -/
theorem assemble_eq_append (verb arguments : List Char) :
    assemble verb arguments = verb ++ assemble [] arguments := by
  cases arguments with
  | nil => simp
  | cons c cs => rfl

/-- After one space, what does not end in white space stays as it is. -/
theorem argumentPart_append {front : List Char} (hne : front ≠ [])
    (hhead : ∀ c ∈ front.head?, isBlank c = false) (hlast : ∀ c ∈ front.getLast?, isBlank c = false)
    (back : List Char) :
    argumentPart (' ' :: (front ++ back)) = ' ' :: (front ++ trimEnd back) := by
  obtain ⟨c, cs, rfl⟩ := List.exists_cons_of_ne_nil hne
  have hspace : ∀ d ∈ (' ' :: c :: cs).getLast?, isBlank d = false := by
    rwa [List.getLast?_cons_cons]
  have hend : trimEnd (' ' :: (c :: cs ++ back)) = [' '] ++ (c :: cs ++ trimEnd back) :=
    trimEnd_append hspace back
  have hstart : trimStart ([' '] ++ (c :: cs ++ trimEnd back)) = c :: cs ++ trimEnd back := by
    apply dropWhile_run
    · exact List.forall_mem_singleton.mpr (by decide)
    · simpa using hhead
  rw [argumentPart, hend, hstart]
  rfl

/-- Arguments that are trimmed already are left as they are. -/
theorem argumentPart_eq_self {cs : List Char} (hne : cs ≠ [])
    (hhead : ∀ c ∈ cs.head?, isBlank c = false) (hlast : ∀ c ∈ cs.getLast?, isBlank c = false) :
    argumentPart (' ' :: cs) = ' ' :: cs := by
  have h := argumentPart_append hne hhead hlast []
  rwa [show trimEnd [] = [] from rfl, List.append_nil] at h

/-- Trimming makes arguments no longer. -/
theorem length_argumentPart_le (cs : List Char) :
    (argumentPart (' ' :: cs)).length ≤ cs.length + 1 := by
  have htrim : (trimStart (trimEnd (' ' :: cs))).length ≤ cs.length := by
    rcases List.prefix_cons_iff.mp (trimEnd_prefix_self (' ' :: cs)) with h | ⟨front, h, hfront⟩
    · simp [h, trimStart]
    · have hspace : trimStart (' ' :: front) = trimStart front :=
        List.dropWhile_cons_of_pos (by decide)
      rw [h, hspace]
      exact ((List.dropWhile_suffix isBlank).length_le).trans hfront.length_le
  rw [argumentPart]
  cases h : trimStart (trimEnd (' ' :: cs)) with
  | nil => simp
  | cons c rest =>
    rw [h] at htrim
    rw [assemble_of_ne_nil (by simp)]
    simpa using htrim

end PageScript.Line
