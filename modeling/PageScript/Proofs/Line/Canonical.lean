import PageScript.Proofs.Line.NormalForm

/-!
# Normal forms are canonical

Bringing a line into normal form once more changes nothing: its verb is no alias, in lower case and
without a colon at its end, and nothing is left to be trimmed. There is one kind of line for which
that fails. If the first word holds nothing but colons, and more follows, then no verb is left, and
the normal form begins with the space in front of the arguments.

* `isCanonicalWord_verbOfWord` — what the verb of every word is like;
* `normalChars_assemble` — a verb and trimmed arguments are left alone;
* `normalize_normalize_iff` — which lines are brought into normal form at once.
-/

namespace PageScript.Line

open Text

/-! ### Verbs -/

/-- A word that is no alias, is in lower case, and has no colon at its end. -/
structure IsCanonicalWord (word : List Char) : Prop where
  canonicalVerb_eq : canonicalVerb (String.ofList word) = String.ofList word
  lowerCase_eq : lowerCase word = word
  getLast?_ne : word.getLast? ≠ some ':'

/-- The verbs that have aliases. -/
def verbsWithAliases : List String :=
  ["navto", "focus", "scroll", "getattr", "getstyle", "exec", "waitforelement", "showtoast"]

/-- A verb is its own canonical one, or has an alias. -/
theorem canonicalVerb_cases (verb : String) :
    canonicalVerb verb = verb ∨ canonicalVerb verb ∈ verbsWithAliases := by
  unfold canonicalVerb
  split <;> first | exact .inl rfl | exact .inr (by decide)

/-- The canonical verb of a canonical one is the same. -/
theorem canonicalVerb_canonicalVerb (verb : String) :
    canonicalVerb (canonicalVerb verb) = canonicalVerb verb := by
  have hfixed : ∀ v ∈ verbsWithAliases, canonicalVerb v = v := by decide
  rcases canonicalVerb_cases verb with h | h
  · rw [h, h]
  · exact hfixed _ h

/-- A word without a colon at its end is left as it is. -/
theorem dropColons_eq_self {word : List Char} (h : word.getLast? ≠ some ':') :
    dropColons word = word := by
  refine List.rdropWhile_eq_self_iff.mpr fun hne hcolon => h ?_
  rw [List.getLast?_eq_some_getLast hne, of_decide_eq_true hcolon]

/-- No colon is left at the end of a word. -/
private theorem getLast?_dropColons_ne (word : List Char) :
    (dropColons word).getLast? ≠ some ':' := by
  rw [dropColons, List.getLast?_reverse]
  intro h
  have := not_of_mem_head?_dropWhile (p := (· = ':')) word.reverse ':' h
  simp at this

/-- Nothing is left of a word just if it has nothing but colons. -/
private theorem dropColons_eq_nil_iff {word : List Char} :
    dropColons word = [] ↔ ∀ c ∈ word, c = ':' := by
  rw [dropColons, List.reverse_eq_nil_iff, List.dropWhile_eq_nil_iff]
  simp

/-- Lowering makes no colon at the end of a word. -/
theorem getLast?_lowerCase_ne {word : List Char} (h : word.getLast? ≠ some ':') :
    (lowerCase word).getLast? ≠ some ':' := by
  intro hcolon
  obtain ⟨c, hc, hlower | hfinal⟩ := exists_of_mem_getLast?_lowerAfter hcolon
  · rcases eq_of_mem_lowerChar hlower (by decide) with rfl | ⟨-, hdot⟩
    · exact h hc
    · revert hdot
      decide
  · revert hfinal
    decide

/-- The verb that a word stands for is canonical, whatever the word is. -/
theorem isCanonicalWord_verbOfWord (word : List Char) : IsCanonicalWord (verbOfWord word) := by
  -- What an alias stands for is not lowered again, so it has to be in lower case already.
  have hverbs : ∀ v ∈ verbsWithAliases,
      lowerCase v.toList = v.toList ∧ v.toList.getLast? ≠ some ':' := by decide
  have hcanonical := canonicalVerb_canonicalVerb (String.ofList (lowerCase (dropColons word)))
  rw [verbOfWord]
  rcases canonicalVerb_cases (String.ofList (lowerCase (dropColons word))) with h | h
  · rw [h, String.toList_ofList]
    exact ⟨h, lowerCase_lowerCase _, getLast?_lowerCase_ne (getLast?_dropColons_ne word)⟩
  · obtain ⟨hlower, hlast⟩ := hverbs _ h
    exact ⟨by rw [String.ofList_toList, hcanonical], hlower, hlast⟩

/-- A canonical word is its own verb. -/
theorem IsCanonicalWord.verbOfWord_eq {word : List Char} (h : IsCanonicalWord word) :
    verbOfWord word = word := by
  rw [verbOfWord, dropColons_eq_self h.getLast?_ne, h.lowerCase_eq, h.canonicalVerb_eq,
    String.toList_ofList]

/-- No verb is left of a word exactly if it holds nothing but colons. -/
theorem verbOfWord_eq_nil_iff {word : List Char} :
    verbOfWord word = [] ↔ ∀ c ∈ word, c = ':' := by
  rw [← dropColons_eq_nil_iff]
  constructor
  · intro h
    have hverbs : ∀ v ∈ verbsWithAliases, v.toList ≠ [] := by decide
    rw [verbOfWord] at h
    rcases canonicalVerb_cases (String.ofList (lowerCase (dropColons word))) with heq | hmem
    · rw [heq, String.toList_ofList] at h
      by_contra hne
      exact lowerAfter_ne_nil hne h
    · exact absurd h (hverbs _ hmem)
  · intro h
    rw [verbOfWord, h]
    decide

/-! ### The parts of a line -/

/-- The first word of a line. -/
def firstWord (cs : List Char) : List Char :=
  (splitWord (trim cs)).1

/-- What follows the first word of a line. -/
def argumentsOf (cs : List Char) : List Char :=
  trimStart (splitWord (trim cs)).2

variable {cs verb arguments : List Char}

/-- A line is put together again from the verb of its first word and its arguments. -/
theorem normalChars_eq (cs : List Char) :
    normalChars cs = assemble (verbOfWord (firstWord cs)) (argumentsOf cs) := by
  by_cases h : trim cs = []
  · rw [normalChars, firstWord, argumentsOf, h]
    decide
  · exact normalChars_eq_assemble h

/-- The first word and what follows it are the line without the blanks around it. -/
theorem firstWord_append (cs : List Char) : firstWord cs ++ (splitWord (trim cs)).2 = trim cs := by
  rw [firstWord, splitWord, List.span_eq_takeWhile_dropWhile]
  exact List.takeWhile_append_dropWhile

/-- The first word has no blank. -/
theorem not_isBlank_of_mem_firstWord (cs : List Char) : ∀ c ∈ firstWord cs, isBlank c = false :=
  not_isBlank_of_mem_splitWord _

/-- A line that is not blank has a first word. -/
theorem firstWord_ne_nil (h : trim cs ≠ []) : firstWord cs ≠ [] := by
  obtain ⟨c, rest, hline⟩ := List.exists_cons_of_ne_nil h
  have hc : isBlank c = false := by
    refine not_isBlank_of_mem_head?_trim cs c ?_
    rw [hline]
    rfl
  rw [firstWord, hline, splitWord, List.span_eq_takeWhile_dropWhile, List.takeWhile_cons_of_pos]
  · simp
  · simp [hc]

/-- What follows the first word has no white space at its ends. -/
theorem trim_argumentsOf (cs : List Char) : trim (argumentsOf cs) = argumentsOf cs := by
  have hsuffix : argumentsOf cs <:+ trim cs := by
    rw [← firstWord_append]
    exact (List.dropWhile_suffix _).trans (List.suffix_append _ _)
  have hlast : ∀ c ∈ (argumentsOf cs).getLast?, isBlank c = false := by
    intro c hc
    obtain ⟨front, hfront⟩ := hsuffix
    refine not_isBlank_of_mem_getLast?_trim cs c ?_
    rw [← hfront, List.getLast?_append, hc]
    rfl
  exact trim_eq_self (not_of_mem_head?_dropWhile _) hlast

/-- What follows the first word is shorter than the line. -/
theorem length_argumentsOf_lt (h : trim cs ≠ []) : (argumentsOf cs).length < (trim cs).length := by
  have hword : 0 < (firstWord cs).length := List.length_pos_iff.mpr (firstWord_ne_nil h)
  have hrest : (argumentsOf cs).length ≤ (splitWord (trim cs)).2.length :=
    (List.dropWhile_suffix _).length_le
  rw [← firstWord_append, List.length_append]
  omega

/-- A leading space is trimmed. -/
theorem trim_space_cons (cs : List Char) : trim (' ' :: cs) = trim cs :=
  trim_append_of_isBlank (List.forall_mem_singleton.mpr (by decide)) cs

/-- There is nothing to be trimmed from a verb and trimmed arguments. -/
theorem trim_assemble (hne : verb ≠ []) (hblank : ∀ c ∈ verb, isBlank c = false)
    (harguments : trim arguments = arguments) :
    trim (assemble verb arguments) = assemble verb arguments := by
  apply trim_eq_self
  · obtain ⟨c, rest, rfl⟩ := List.exists_cons_of_ne_nil hne
    rw [assemble_eq_append]
    simpa using hblank c (by simp)
  · cases arguments with
    | nil => exact fun c hc => hblank c (List.mem_of_getLast? hc)
    | cons d ds =>
      rw [assemble_of_ne_nil (by simp), List.getLast?_append_of_ne_nil _ (by simp),
        List.getLast?_cons_cons, ← harguments]
      exact not_isBlank_of_mem_getLast?_trim _

/-- A verb and trimmed arguments are left alone. -/
theorem normalChars_assemble (hne : verb ≠ []) (hblank : ∀ c ∈ verb, isBlank c = false)
    (hverb : IsCanonicalWord verb) (harguments : trim arguments = arguments) :
    normalChars (assemble verb arguments) = assemble verb arguments := by
  have happend : ∀ tail : List Char, (∀ c ∈ tail.head?, isBlank c = true) →
      normalChars (verb ++ tail) = assemble verb (trim tail) := fun tail htail => by
    rw [normalChars_word_append hne hblank htail, hverb.verbOfWord_eq]
  cases arguments with
  | nil => simpa [harguments] using happend [] (by simp)
  | cons c rest =>
    rw [assemble_of_ne_nil (by simp), happend _ (by simp; decide), trim_space_cons, harguments,
      assemble_of_ne_nil (by simp)]

/-! ### Lines without a verb -/

/-- The first word of a line holds nothing but colons, and more follows it. -/
def IsVerbless (s : String) : Prop :=
  (∀ c ∈ firstWord s.toList, c = ':') ∧ argumentsOf s.toList ≠ []

/-- A line without white space at its ends whose first word is no alias, is in lower case, and has
no colon at its end. -/
structure IsNormal (line : String) : Prop where
  trimmed_eq : trimmed line = line
  isCanonicalWord_verb : IsCanonicalWord (Line.verb line).toList

/-- A line without a verb is a space and its arguments. -/
theorem normalChars_of_isVerbless {s : String} (h : IsVerbless s) :
    normalChars s.toList = ' ' :: argumentsOf s.toList := by
  rw [normalChars_eq, verbOfWord_eq_nil_iff.mpr h.1, assemble_of_ne_nil h.2]
  rfl

/-- A line without a verb has only arguments, once it is trimmed again. -/
theorem trim_normalChars_of_isVerbless {s : String} (h : IsVerbless s) :
    trim (normalChars s.toList) = argumentsOf s.toList := by
  rw [normalChars_of_isVerbless h, trim_space_cons, trim_argumentsOf]

/-- The normal form of a line without a verb is not its own normal form: either it begins with a
verb, or it is still shorter. -/
theorem normalChars_normalChars_ne_of_isVerbless {s : String} (h : IsVerbless s) :
    normalChars (normalChars s.toList) ≠ normalChars s.toList := by
  have htrim := trim_normalChars_of_isVerbless h
  rw [normalChars_of_isVerbless h] at htrim ⊢
  intro hfixed
  rw [normalChars_eq] at hfixed
  have hshorter : (argumentsOf (' ' :: argumentsOf s.toList)).length <
      (argumentsOf s.toList).length := by
    have hlt := length_argumentsOf_lt (htrim.symm ▸ h.2)
    rwa [htrim] at hlt
  have hword := not_isBlank_of_mem_verbOfWord
    (not_isBlank_of_mem_firstWord (' ' :: argumentsOf s.toList))
  -- Without a verb the new line is a space and fewer arguments, and with one it begins with that.
  cases hverb : verbOfWord (firstWord (' ' :: argumentsOf s.toList)) with
  | nil =>
    rw [hverb] at hfixed
    cases harguments : argumentsOf (' ' :: argumentsOf s.toList) with
    | nil => simp [harguments] at hfixed
    | cons c rest =>
      rw [harguments] at hfixed hshorter
      rw [← (List.cons.inj hfixed).2] at hshorter
      exact lt_irrefl _ hshorter
  | cons c rest =>
    rw [hverb, assemble_eq_append] at hfixed
    have hspace := hword c (by simp [hverb])
    rw [(List.cons.inj hfixed).1] at hspace
    revert hspace
    decide

/-- A line that has a verb, or no arguments, has a normal form that is left alone. -/
theorem isNormal_normalize {s : String} (h : ¬ IsVerbless s) :
    IsNormal (normalize s) ∧ normalize (normalize s) = normalize s := by
  have hcanonical := isCanonicalWord_verbOfWord (firstWord s.toList)
  have hblank := not_isBlank_of_mem_verbOfWord (not_isBlank_of_mem_firstWord s.toList)
  have hline : normalize s = String.ofList (assemble (verbOfWord (firstWord s.toList))
      (argumentsOf s.toList)) := by rw [normalize, normalChars_eq]
  -- Without a verb there are no arguments either, and nothing at all is left.
  by_cases hne : verbOfWord (firstWord s.toList) = []
  · have hnone : argumentsOf s.toList = [] := by
      by_contra harguments
      exact h ⟨verbOfWord_eq_nil_iff.mp hne, harguments⟩
    rw [hline, hne, hnone]
    exact ⟨⟨by decide, by decide, by decide, by decide⟩, by decide⟩
  · have htrim := trim_argumentsOf s.toList
    have hhead := not_isBlank_of_mem_head?_trim (argumentsOf s.toList)
    rw [htrim] at hhead
    rw [hline]
    refine ⟨⟨?_, ?_⟩, ?_⟩
    · rw [trimmed, String.toList_ofList, trim_assemble hne hblank htrim]
    · rw [verb_ofList_assemble hne hblank hhead, String.toList_ofList]
      exact hcanonical
    · rw [normalize, String.toList_ofList, normalChars_assemble hne hblank hcanonical htrim]

/-- Bringing a line into normal form twice is bringing it there once, and the normal form has no
white space at its ends and begins with a canonical verb, unless the line has no verb but
arguments. Then the normal form is a space and the arguments. -/
theorem normalize_normalize_iff (s : String) :
    (normalize (normalize s) = normalize s ↔ ¬ IsVerbless s) ∧
      (IsNormal (normalize s) ↔ ¬ IsVerbless s) ∧
      (IsVerbless s → normalize s = " " ++ String.ofList (argumentsOf s.toList)) := by
  refine ⟨⟨fun hfixed h => ?_, fun h => (isNormal_normalize h).2⟩,
    ⟨fun hnormal h => ?_, fun h => (isNormal_normalize h).1⟩, fun h => ?_⟩
  · refine normalChars_normalChars_ne_of_isVerbless h ?_
    rw [normalize, normalize, String.toList_ofList] at hfixed
    exact String.ofList_injective hfixed
  · have htrimmed := hnormal.trimmed_eq
    rw [trimmed, normalize, String.toList_ofList, trim_normalChars_of_isVerbless h,
      normalChars_of_isVerbless h] at htrimmed
    have := congrArg List.length (String.ofList_injective htrimmed)
    simp at this
  · rw [← String.toList_inj, normalize, normalChars_of_isVerbless h]
    simp [String.toList_append]

/-- A line of colons and two words. -/
theorem normalize_normalize_colons :
    normalize ":: x y" = " x y" ∧ normalize (normalize ":: x y") ≠ normalize ":: x y" := by
  decide

end PageScript.Line
