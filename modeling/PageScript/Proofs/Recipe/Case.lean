import PageScript.Proofs.Recipe.Keys

/-!
# The case of a name

A key holds the words of a name in lower case, but each character is lowered on its own, after it
has been told whether it is alphanumeric. A name in lower case has the same key unless that makes a
difference: where the name holds an `İ`, whose lower-case form has a dot above that is not
alphanumeric, or ends a word in a capital sigma, which has another lower-case form there.

* `Recipe.keyFor_inLowerCase_iff` — names that have the key of their lower-case spelling;
* `Recipe.keyFor_slug_iff` — names that have the key of their slug;
* `Recipe.lookup_ignores_case_iff` — both, and what loading under the lower-case spelling gives.
-/

namespace PageScript

open Json

/-- The lower-case form of a text. -/
def Text.inLowerCase (s : String) : String :=
  String.ofList (lowerCase s.toList)

namespace Recipe

open Text

variable {name : String} {cs ws run : List Char} {c d : Char}

/-! ### Words of a text in lower case -/

/-- What is lowered already is left as it is. -/
theorem lowerEach_eq_self (h : ∀ c ∈ run, IsLowered c) : lowerEach run = run := by
  induction run with
  | nil => rfl
  | cons c run ih =>
    obtain ⟨hc, hrun⟩ := List.forall_mem_cons.mp h
    have hlower : lowerChar c = [c] := hc
    have hrest : run.flatMap lowerChar = run := ih hrun
    rw [lowerEach, List.flatMap_cons, hlower, hrest]
    rfl

/-- The words are what is alphanumeric, lowered. -/
theorem flatten_words (name : String) :
    (words name).flatten = lowerEach (name.toList.filter isAlphanumeric) := by
  have hflatten : ∀ rs : List (List Char), (rs.map lowerEach).flatten = lowerEach rs.flatten := by
    intro rs
    induction rs with
    | nil => rfl
    | cons run rs ih => simpa [lowerEach] using ih
  rw [words, hflatten, flatten_runs]

/-- The words of a text in lower case hold its alphanumeric characters as they are. -/
theorem flatten_words_of_isLowered (h : ∀ c ∈ name.toList, IsLowered c) :
    (words name).flatten = name.toList.filter isAlphanumeric := by
  rw [flatten_words, lowerEach_eq_self fun c hc => h c (List.mem_filter.mp hc).1]

/-- The characters of a text in lower case. -/
theorem toList_inLowerCase (name : String) : (inLowerCase name).toList = lowerCase name.toList :=
  String.toList_ofList

/-- A text in lower case is lowered already. -/
theorem isLowered_of_mem_inLowerCase (name : String) :
    ∀ c ∈ (inLowerCase name).toList, IsLowered c := by
  rw [toList_inLowerCase]
  exact fun c => isLowered_of_mem_lowerCase

/-- A word of a key is lowered already. -/
theorem isLowered_of_mem_words {w : List Char} (hw : w ∈ words name) : ∀ c ∈ w, IsLowered c := by
  obtain ⟨run, -, rfl⟩ := List.mem_map.mp hw
  intro c hc
  obtain ⟨d, -, hd⟩ := List.mem_flatMap.mp hc
  exact isLowered_of_mem_lowerChar hd

/-- A key is lowered already. -/
theorem isLowered_of_mem_slug (name : String) : ∀ c ∈ (slug name).toList, IsLowered c := by
  intro c hc
  have hjoined : ∀ ws : List (List Char), c ∈ joined ws → c = '_' ∨ ∃ w ∈ ws, c ∈ w := by
    rintro (- | ⟨w, ws⟩) h
    · cases h
    · rw [joined_cons, List.mem_append, List.mem_flatMap] at h
      simp only [List.mem_cons] at h
      grind
  rw [toList_slug] at hc
  rcases hjoined _ hc with rfl | ⟨w, hw, hc⟩
  · decide
  · exact isLowered_of_mem_words hw c hc

/-- The dot above of an `İ` is left in a word, and there is none in the words of a text in lower
case. -/
theorem words_ne_of_dotted {other : String} (hdotted : 'İ' ∈ name.toList)
    (h : ∀ c ∈ other.toList, IsLowered c) : words other ≠ words name := by
  intro heq
  have hdot : Char.ofNat 0x307 ∈ lowerEach (name.toList.filter isAlphanumeric) :=
    List.mem_flatMap.mpr ⟨'İ', List.mem_filter.mpr ⟨hdotted, by decide⟩, by decide⟩
  rw [← flatten_words, ← heq, flatten_words_of_isLowered h] at hdot
  have hnot : isAlphanumeric (Char.ofNat 0x307) = false := by decide
  rw [(List.mem_filter.mp hdot).2] at hnot
  cases hnot

/-! ### Texts without an `İ` -/

/-- Without a dotted capital every character is lowered to one. -/
theorem lowerEach_eq_map (h : 'İ' ∉ cs) : lowerEach cs = cs.map lowerOne := by
  rw [lowerEach, List.map_eq_flatMap]
  refine List.flatMap_congr fun c hc => lowerChar_of_ne ?_
  rintro rfl
  exact h hc

/-- Without a dotted capital a name may be lowered before its key is made. -/
private theorem slugFrom_map_lowerOne (h : 'İ' ∉ cs) (gap started : Bool) :
    slugFrom gap started (cs.map lowerOne) = slugFrom gap started cs := by
  induction cs generalizing gap started with
  | nil => rfl
  | cons c cs ih =>
    obtain ⟨hc, hcs⟩ := List.ne_and_not_mem_of_not_mem_cons h
    have hlower : lowerChar (lowerOne c) = lowerChar c := by
      have hone := lowerChar_of_ne (Ne.symm hc)
      have hlowered : IsLowered (lowerOne c) := isLowered_of_mem_lowerChar (c := c) (by simp [hone])
      rw [hone, hlowered]
    rw [List.map_cons, slugFrom, slugFrom, isAlphanumeric_lowerOne, hlower, ih hcs, ih hcs]

/-- Lowering a text without an `İ` leaves it as long, and changes final sigmas only. -/
theorem forall₂_lowerAfter {before : List Char} (h : 'İ' ∉ cs) :
    List.Forall₂ (fun d e => d = e ∨ d = 'ς' ∧ e = 'σ') (lowerAfter before cs)
      (cs.map lowerOne) := by
  induction cs generalizing before with
  | nil => exact .nil
  | cons c cs ih =>
    obtain ⟨hc, hcs⟩ := List.ne_and_not_mem_of_not_mem_cons h
    rw [lowerAfter, List.map_cons]
    by_cases hsigma : c = 'Σ'
    · subst hsigma
      have hone : lowerOne 'Σ' = 'σ' := by decide
      rw [if_pos rfl, hone]
      refine .cons ?_ (ih hcs)
      split <;> simp
    · rw [if_neg hsigma, lowerChar_of_ne (Ne.symm hc)]
      exact .cons (.inl rfl) (ih hcs)

/-- Final sigmas are alphanumeric, so texts that differ in them differ in their alphanumeric
characters. -/
theorem eq_of_filter_eq {other : List Char}
    (h : List.Forall₂ (fun d e => d = e ∨ d = 'ς' ∧ e = 'σ') cs other)
    (hfilter : cs.filter isAlphanumeric = other.filter isAlphanumeric) : cs = other := by
  have hsigma : isAlphanumeric 'ς' = true ∧ isAlphanumeric 'σ' = true := by decide
  induction h with
  | nil => rfl
  | cons hhead _ ih =>
    rcases hhead with rfl | ⟨rfl, rfl⟩
    · rw [List.filter_cons, List.filter_cons] at hfilter
      split at hfilter
      · rw [ih (List.cons.inj hfilter).2]
      · rw [ih hfilter]
    · rw [List.filter_cons_of_pos hsigma.1, List.filter_cons_of_pos hsigma.2] at hfilter
      exact absurd (List.cons.inj hfilter).1 (by decide)

/-- A final sigma is left in a word. -/
theorem words_ne_of_hasFinalSigma (hdotted : 'İ' ∉ name.toList)
    (h : HasFinalSigma [] name.toList) : words (inLowerCase name) ≠ words name := by
  intro heq
  have hnot : 'İ' ∉ name.toList.filter isAlphanumeric := fun hmem =>
    hdotted (List.mem_filter.mp hmem).1
  have hplaces : isAlphanumeric ∘ lowerOne = isAlphanumeric := funext isAlphanumeric_lowerOne
  -- Equal words would mean that the name has the same alphanumeric characters whether it is lowered
  -- as a whole or character by character.
  have hfilter : (lowerCase name.toList).filter isAlphanumeric =
      (name.toList.map lowerOne).filter isAlphanumeric := by
    rw [← toList_inLowerCase, ← flatten_words_of_isLowered (isLowered_of_mem_inLowerCase name),
      heq, flatten_words, lowerEach_eq_map hnot, List.filter_map, hplaces]
  refine (lowerCase_eq_flatMap_iff name.toList).mp ?_ h
  rw [lowerCase, eq_of_filter_eq (forall₂_lowerAfter hdotted) hfilter, ← lowerEach_eq_map hdotted,
    lowerEach]

/-! ### Slugs -/

/-- Alphanumeric words are the runs of what is written of them. -/
theorem runs_joined {ws : List (List Char)}
    (h : ∀ w ∈ ws, w ≠ [] ∧ ∀ c ∈ w, isAlphanumeric c = true) : runs (joined ws) = ws := by
  have hunderscore : isAlphanumeric '_' = false := by decide
  have hhead : ∀ ws : List (List Char), ∀ c ∈ (ws.flatMap ('_' :: ·)).head?,
      isAlphanumeric c = false := by
    rintro (- | ⟨w, ws⟩) c hc
    · cases hc
    · obtain rfl : '_' = c := by simpa using hc
      exact hunderscore
  -- Behind the first word each one has an underscore in front of it.
  have htail : ∀ ws : List (List Char), (∀ w ∈ ws, w ≠ [] ∧ ∀ c ∈ w, isAlphanumeric c = true) →
      runs (ws.flatMap ('_' :: ·)) = ws := by
    intro ws h
    induction ws with
    | nil => rfl
    | cons w ws ih =>
      obtain ⟨⟨hne, hw⟩, hws⟩ := List.forall_mem_cons.mp h
      rw [List.flatMap_cons, List.cons_append, runs_cons_of_not hunderscore,
        runs_append hne hw (hhead ws), ih hws]
  cases ws with
  | nil => rfl
  | cons w ws =>
    obtain ⟨⟨hne, hw⟩, hws⟩ := List.forall_mem_cons.mp h
    rw [joined_cons, runs_append hne hw (hhead ws), htail ws hws]

/-- Without a dotted capital the words are alphanumeric throughout. -/
private theorem isAlphanumeric_of_mem_words (h : 'İ' ∉ name.toList) {w : List Char}
    (hw : w ∈ words name) : ∀ c ∈ w, isAlphanumeric c = true := by
  obtain ⟨run, hrun, rfl⟩ := List.mem_map.mp hw
  have hdotted : 'İ' ∉ run := by
    intro hmem
    have hflat : 'İ' ∈ (runs name.toList).flatten := List.mem_flatten_of_mem hrun hmem
    rw [flatten_runs] at hflat
    exact h (List.mem_filter.mp hflat).1
  rw [lowerEach_eq_map hdotted, List.forall_mem_map]
  intro c hc
  rw [isAlphanumeric_lowerOne]
  exact isAlphanumeric_of_mem_runs hrun c hc

/-- Without a dotted capital the key has the words of the name. -/
theorem words_slug (h : 'İ' ∉ name.toList) : words (slug name) = words name := by
  have hruns : runs (joined (words name)) = words name := runs_joined fun w hw =>
    ⟨(isWord_of_mem_words hw).1, isAlphanumeric_of_mem_words h hw⟩
  rw [words, toList_slug, hruns]
  refine (List.map_congr_left fun w hw => ?_).trans (List.map_id _)
  exact lowerEach_eq_self (isLowered_of_mem_words hw)

/-- A name has the key of its slug unless it holds an `İ`. -/
theorem keyFor_slug_iff (name : String) : keyFor (slug name) = keyFor name ↔ 'İ' ∉ name.toList := by
  rw [keyFor_eq_iff]
  exact ⟨fun heq hdotted => words_ne_of_dotted hdotted (isLowered_of_mem_slug name) heq, words_slug⟩

/-! ### Keys -/

/-- A name is lowered as its characters are: it holds no `İ` and no capital sigma at the end of a
word. -/
def IsLoweredEach (name : String) : Prop :=
  'İ' ∉ name.toList ∧ ¬ HasFinalSigma [] name.toList

/-- A name in lower case has the same key just if each character is lowered as it is alone. -/
theorem keyFor_inLowerCase_iff (name : String) :
    keyFor (inLowerCase name) = keyFor name ↔ IsLoweredEach name := by
  constructor
  · rw [keyFor_eq_iff]
    intro heq
    have hdotted : 'İ' ∉ name.toList := fun hdotted =>
      words_ne_of_dotted hdotted (isLowered_of_mem_inLowerCase name) heq
    exact ⟨hdotted, fun hsigma => words_ne_of_hasFinalSigma hdotted hsigma heq⟩
  · rintro ⟨hdotted, hsigma⟩
    have hslug : slug (inLowerCase name) = slug name := by
      rw [← String.toList_inj, toList_slug_eq, toList_slug_eq, toList_inLowerCase,
        (lowerCase_eq_flatMap_iff _).mpr hsigma, ← lowerEach, lowerEach_eq_map hdotted,
        slugFrom_map_lowerOne hdotted]
    rw [keyFor, keyFor, hslug]

/-- A name has the key of its lower-case spelling unless it holds an `İ` or a capital sigma at the
end of a word, and the key of its slug unless it holds an `İ`. A recipe that has been saved is
loaded under the lower-case spelling of its name, maybe with other places of its clicks, if the key
is the same; otherwise the store has under that spelling what it had before. -/
theorem lookup_ignores_case_iff (name : String) :
    (keyFor (inLowerCase name) = keyFor name ↔ IsLoweredEach name) ∧
    (keyFor (slug name) = keyFor name ↔ 'İ' ∉ name.toList) ∧
    ∀ (s s' : Store) (recipe : Recipe), recipe.name = name → s.save recipe = .ok s' →
      ∃ f found, KeepsFinite f ∧ (∀ entries, s = .memory entries → f = id) ∧
        s.get (keyFor (inLowerCase name)) = .ok found ∧
        (IsLoweredEach name → recipe.IsFinite →
          s'.load (inLowerCase name) = .ok (some (recipe.mapFloats f))) ∧
        (¬ IsLoweredEach name →
          s'.get (keyFor (inLowerCase name)) = .ok (found.map (Json.mapFloats f))) := by
  refine ⟨keyFor_inLowerCase_iff name, keyFor_slug_iff name, ?_⟩
  rintro s s' recipe rfl hsave
  obtain ⟨f, hf, hmemory, hget⟩ := Store.exists_get_of_save hsave
  obtain ⟨found, hfound, hget⟩ := hget (keyFor (inLowerCase recipe.name))
  refine ⟨f, found, hf, hmemory, hfound, fun hlowered hfinite => ?_, fun hlowered => ?_⟩
  -- The other name has the key that was saved under, or a key that was not touched.
  · rw [if_pos ((keyFor_inLowerCase_iff recipe.name).mpr hlowered).symm] at hget
    exact Store.load_of_get hf hfinite hget
  · rwa [if_neg fun heq => hlowered ((keyFor_inLowerCase_iff recipe.name).mp heq.symm)] at hget

/-- A name with a capital. -/
theorem lookup_ignores_case_login :
    ∃ s', (Store.memory []).save ⟨"Login", 7, []⟩ = .ok s' ∧ IsLoweredEach "Login" ∧
      s'.load "login" = .ok (some ⟨"Login", 7, []⟩) := by
  have hlowered : IsLoweredEach "Login" :=
    ⟨by decide, (lowerCase_eq_flatMap_iff _).mp (by decide)⟩
  refine ⟨_, rfl, hlowered, ?_⟩
  obtain ⟨f, _, -, -, -, hload, -⟩ := (lookup_ignores_case_iff "Login").2.2 (.memory []) _
    ⟨"Login", 7, []⟩ rfl rfl
  have hlower : inLowerCase "Login" = "login" := by decide
  exact hlower ▸ hload hlowered (by simp [IsFinite])

/-- A dotted capital and a final sigma. -/
theorem lookup_ignores_case_istanbul :
    keyFor (inLowerCase "İstanbul") ≠ keyFor "İstanbul" ∧
      keyFor (inLowerCase "ΟΔΟΣ") ≠ keyFor "ΟΔΟΣ" ∧
      keyFor (slug "İstanbul") ≠ keyFor "İstanbul" := by
  decide

end Recipe

end PageScript
