import PageScript.Proofs.Store.Recipes
import PageScript.Proofs.Text.Alphanumeric

/-!
# Keys of recipes

The key of a recipe holds the words of its name, each in lower case, with one underscore between two
of them. No word holds an underscore, so the words can be read back from the key: they are all that
it depends on, and all that can be told from it. So a recipe is saved over another one only if their
names have the same words.

* `toList_slug` — what is written of a name;
* `keyFor_eq_iff` — names of one key have the same words;
* `underscore_between` — where the underscores stand;
* `keyFor_identifies_words` — keys and words, and what saving leaves alone.
-/

namespace PageScript.Recipe

open Text Json

/-! ### Runs of alphanumeric characters -/

/-- The runs of alphanumeric characters, each as long as it can be. -/
def runs (cs : List Char) : List (List Char) :=
  (cs.splitOnP (!isAlphanumeric ·)).filter (!·.isEmpty)

variable {cs run rest : List Char} {c : Char}

/-- Runs end at any other character. -/
theorem runs_append_cons (hc : isAlphanumeric c = false) (cs rest : List Char) :
    runs (cs ++ c :: rest) = runs cs ++ runs rest := by
  rw [runs, List.splitOnP_append_cons cs rest (by simpa using hc), List.filter_append, runs, runs]

/-- A run does not start with what is not alphanumeric. -/
theorem runs_cons_of_not (hc : isAlphanumeric c = false) (cs : List Char) :
    runs (c :: cs) = runs cs :=
  runs_append_cons hc [] cs

/-- An alphanumeric text is one run. -/
theorem runs_eq_singleton (hne : run ≠ []) (hrun : ∀ c ∈ run, isAlphanumeric c = true) :
    runs run = [run] := by
  have hsplit : run.splitOnP (!isAlphanumeric ·) = [run] :=
    List.splitOnP_eq_singleton fun c hc => by simp [hrun c hc]
  simp [runs, hsplit, hne]

/-- An alphanumeric text that nothing alphanumeric follows is the first run. -/
theorem runs_append (hne : run ≠ []) (hrun : ∀ c ∈ run, isAlphanumeric c = true)
    (hrest : ∀ c ∈ rest.head?, isAlphanumeric c = false) :
    runs (run ++ rest) = run :: runs rest := by
  cases rest with
  | nil => rw [List.append_nil, runs_eq_singleton hne hrun]; rfl
  | cons c rest =>
    have hc : isAlphanumeric c = false := hrest c rfl
    rw [runs_append_cons hc, runs_eq_singleton hne hrun, runs_cons_of_not hc]
    rfl

/-- An alphanumeric character starts a run with all that follow it. -/
theorem runs_cons (hc : isAlphanumeric c = true) (cs : List Char) :
    runs (c :: cs) =
      (c :: cs.takeWhile isAlphanumeric) :: runs (cs.dropWhile isAlphanumeric) := by
  have hrun : ∀ d ∈ c :: cs.takeWhile isAlphanumeric, isAlphanumeric d = true :=
    List.forall_mem_cons.mpr ⟨hc, fun d hd => List.mem_takeWhile_imp hd⟩
  rw [← runs_append (by simp) hrun (not_of_mem_head?_dropWhile cs), List.cons_append,
    List.takeWhile_append_dropWhile]

/-- What stands before the first run makes no difference. -/
theorem runs_append_of_not {front : List Char} (h : ∀ c ∈ front, isAlphanumeric c = false)
    (cs : List Char) : runs (front ++ cs) = runs cs := by
  induction front with
  | nil => rfl
  | cons c front ih =>
    obtain ⟨hc, hfront⟩ := List.forall_mem_cons.mp h
    rw [List.cons_append, runs_cons_of_not hc, ih hfront]

/-- Nor does what stands behind the last one. -/
theorem runs_append_not {back : List Char} (h : ∀ c ∈ back, isAlphanumeric c = false)
    (cs : List Char) : runs (cs ++ back) = runs cs := by
  cases back with
  | nil => rw [List.append_nil]
  | cons c back =>
    obtain ⟨hc, hback⟩ := List.forall_mem_cons.mp h
    have hnone := runs_append_of_not hback []
    rw [List.append_nil] at hnone
    rw [runs_append_cons hc, hnone]
    exact List.append_nil _

/-- The runs hold the alphanumeric characters of the text. -/
theorem flatten_runs (cs : List Char) : (runs cs).flatten = cs.filter isAlphanumeric := by
  have hcuts : (cs.splitOnP (!isAlphanumeric ·)).flatten = cs.filter isAlphanumeric := by
    induction cs with
    | nil => rfl
    | cons c cs ih =>
      rw [List.splitOnP_cons_eq_if_modifyHead]
      obtain ⟨first, rest, hcuts⟩ :=
        List.exists_cons_of_ne_nil (List.splitOnP_ne_nil (!isAlphanumeric ·) cs)
      rw [hcuts] at ih ⊢
      cases hc : isAlphanumeric c <;> simpa [hc] using ih
  rw [runs, List.flatten_filter_not_isEmpty, hcuts]

/-- No run is empty. -/
theorem ne_nil_of_mem_runs (h : run ∈ runs cs) : run ≠ [] := by
  simpa using (List.mem_filter.mp h).2

/-- A run is alphanumeric. -/
theorem isAlphanumeric_of_mem_runs (h : run ∈ runs cs) : ∀ c ∈ run, isAlphanumeric c = true := by
  intro c hc
  have hmem : c ∈ cs.filter isAlphanumeric := flatten_runs cs ▸ List.mem_flatten_of_mem h hc
  exact (List.mem_filter.mp hmem).2

/-- White space at the ends makes no difference to the runs. -/
theorem runs_trim (cs : List Char) : runs (trim cs) = runs cs := by
  obtain ⟨front, back, heq, hfront, hback⟩ := exists_eq_append_trim cs
  have hstart : runs cs = runs (trim cs ++ back) := by
    conv_lhs => rw [heq]
    exact runs_append_of_not (fun c hc => not_isAlphanumeric_of_isBlank (hfront c hc)) _
  rw [hstart, runs_append_not fun c hc => not_isAlphanumeric_of_isBlank (hback c hc)]

/-! ### Words -/

/-- A run in lower case, character by character. -/
def lowerEach (run : List Char) : List Char :=
  run.flatMap lowerChar

/-- The words of a name: the runs of its alphanumeric characters in lower case. -/
def words (name : String) : List (List Char) :=
  (runs name.toList).map lowerEach

/-- Words with an underscore between two of them. -/
def joined (ws : List (List Char)) : List Char :=
  ['_'].intercalate ws

variable {ws : List (List Char)} {name : String}

/-- Words are joined with an underscore before each one but the first. -/
theorem joined_cons (w : List Char) (ws : List (List Char)) :
    joined (w :: ws) = w ++ ws.flatMap ('_' :: ·) := by
  induction ws generalizing w with
  | nil => simp [joined]
  | cons v vs ih =>
    rw [joined, List.intercalate_cons_cons, ← joined, ih, List.flatMap_cons]
    simp

/-- What is written of words when a word has been written or not. -/
def continued (started : Bool) (ws : List (List Char)) : List Char :=
  if started then ws.flatMap ('_' :: ·) else joined ws

/-- Further words are joined with an underscore before each of them. -/
private theorem continued_cons (started : Bool) (w : List Char) (ws : List (List Char)) :
    continued started (w :: ws) =
      (if started then ['_'] else []) ++ w ++ continued true ws := by
  cases started <;> simp [continued, joined_cons]

/-- The key that is made from any point on continues with the runs that are left. -/
theorem slugFrom_eq (cs : List Char) :
    (∀ started, slugFrom true started cs = continued started ((runs cs).map lowerEach)) ∧
      slugFrom false true cs = lowerEach (cs.takeWhile isAlphanumeric) ++
        continued true ((runs (cs.dropWhile isAlphanumeric)).map lowerEach) := by
  -- After a gap a new word begins; without one the text begins with the rest of a word.
  induction cs with
  | nil => exact ⟨fun started => by cases started <;> rfl, rfl⟩
  | cons c cs ih =>
    obtain ⟨hgap, hword⟩ := ih
    by_cases hc : isAlphanumeric c = true
    · refine ⟨fun started => ?_, ?_⟩
      · rw [slugFrom, if_pos hc, hword, runs_cons hc, List.map_cons, continued_cons]
        simp [lowerEach]
      · rw [slugFrom, if_pos hc, hword, List.takeWhile_cons_of_pos hc,
          List.dropWhile_cons_of_pos hc]
        simp [lowerEach]
    · rw [Bool.not_eq_true] at hc
      have hneg : ¬ isAlphanumeric c = true := by simp [hc]
      refine ⟨fun started => ?_, ?_⟩
      · rw [slugFrom, if_neg hneg, hgap, runs_cons_of_not hc]
      · rw [slugFrom, if_neg hneg, hgap, List.takeWhile_cons_of_neg hneg,
          List.dropWhile_cons_of_neg hneg, runs_cons_of_not hc]
        rfl

/-- Before the first word, a gap makes no difference. -/
theorem slugFrom_not_started (gap : Bool) (cs : List Char) :
    slugFrom gap false cs = slugFrom true false cs := by
  cases cs <;> simp [slugFrom]

/-- The key of a name is its words, joined. -/
theorem toList_slug (name : String) : (slug name).toList = joined (words name) := by
  rw [slug, String.toList_ofList, slugFrom_not_started, (slugFrom_eq _).1, runs_trim]
  rfl

/-- White space at the ends of a name makes no difference to what is written of it. -/
theorem toList_slug_eq (name : String) : (slug name).toList = slugFrom true false name.toList := by
  rw [toList_slug, (slugFrom_eq _).1]
  rfl

/-! ### Keys -/

/-- A word is not empty and holds no underscore. -/
def IsWord (w : List Char) : Prop :=
  w ≠ [] ∧ '_' ∉ w

/-- The words of a name are words. -/
theorem isWord_of_mem_words {w : List Char} (h : w ∈ words name) : IsWord w := by
  obtain ⟨run, hrun, rfl⟩ := List.mem_map.mp h
  constructor
  · obtain ⟨c, rest, rfl⟩ := List.exists_cons_of_ne_nil (ne_nil_of_mem_runs hrun)
    exact List.append_ne_nil_of_left_ne_nil (lowerChar_ne_nil c) _
  -- An underscore would come of an underscore, which is not alphanumeric.
  · intro hmem
    obtain ⟨c, hc, hlower⟩ := List.mem_flatMap.mp hmem
    rcases eq_of_mem_lowerChar hlower (by decide) with rfl | ⟨-, hdot⟩
    · have := isAlphanumeric_of_mem_runs hrun _ hc
      revert this
      decide
    · revert hdot
      decide

/-- Words can be read back from what is written of them. -/
theorem splitOn_joined (h : ∀ w ∈ ws, IsWord w) :
    ((joined ws).splitOn '_').filter (!·.isEmpty) = ws := by
  by_cases hne : ws = []
  · subst hne
    rfl
  · rw [joined, List.splitOn_intercalate '_' (fun w hw => (h w hw).2) hne, List.filter_eq_self]
    intro w hw
    simpa using (h w hw).1

/-- Names have the same key exactly if they have the same words. -/
theorem keyFor_eq_iff {m n : String} : keyFor m = keyFor n ↔ words m = words n := by
  have hslug : keyFor m = keyFor n ↔ joined (words m) = joined (words n) := by
    rw [keyFor, keyFor, ← String.toList_inj, String.toList_append, String.toList_append,
      List.append_cancel_left_eq, toList_slug, toList_slug]
  rw [hslug]
  have hread : ∀ name : String, ((joined (words name)).splitOn '_').filter (!·.isEmpty) =
      words name := fun name => splitOn_joined fun w => isWord_of_mem_words
  constructor
  · intro h
    rw [← hread m, h, hread n]
  · exact fun h => by rw [h]

/-- What is written of words begins and ends with another character than an underscore. -/
theorem ends_of_joined (hne : ws ≠ []) (h : ∀ w ∈ ws, IsWord w) :
    (∃ c ∈ (joined ws).head?, c ≠ '_') ∧ ∃ c ∈ (joined ws).getLast?, c ≠ '_' := by
  have hchar : ∀ w ∈ ws, ∀ c ∈ w, c ≠ '_' := by
    rintro w hw c hc rfl
    exact (h w hw).2 hc
  induction ws with
  | nil => exact absurd rfl hne
  | cons w ws ih =>
    obtain ⟨c, rest, hw⟩ := List.exists_cons_of_ne_nil (h w (by simp)).1
    -- The front is that of the first word, and the end that of the last one.
    constructor
    · refine ⟨c, ?_, hchar w (by simp) c (by simp [hw])⟩
      rw [joined_cons, hw]
      rfl
    · cases ws with
      | nil =>
        obtain ⟨d, hd⟩ := Option.ne_none_iff_exists'.mp
          (mt List.getLast?_eq_none_iff.mp (h w (by simp)).1)
        exact ⟨d, by simpa [joined] using hd, hchar w (by simp) d (List.mem_of_getLast? hd)⟩
      | cons v vs =>
        obtain ⟨-, d, hd, hne⟩ := ih (by simp) (fun w hw => h w (by simp [hw]))
          fun w hw => hchar w (by simp [hw])
        refine ⟨d, ?_, hne⟩
        have hnil : joined (v :: vs) ≠ [] := by
          intro hnil
          rw [hnil] at hd
          cases hd
        rw [joined, List.intercalate_cons_cons, ← joined, List.getLast?_append_of_ne_nil _ hnil]
        exact hd

/-- An underscore in what is written of a name stands between two other characters. -/
theorem underscore_between {front back : List Char}
    (h : joined (words name) = front ++ '_' :: back) :
    (∃ c ∈ front.getLast?, c ≠ '_') ∧ ∃ c ∈ back.head?, c ≠ '_' := by
  -- The underscore separates the words in front of it from those behind it.
  have hne : words name ≠ [] := by
    intro hnil
    rw [hnil] at h
    simp [joined] at h
  have hsplit : front.splitOn '_' ++ back.splitOn '_' = words name := by
    rw [← List.splitOn_append_cons_self, ← h, joined,
      List.splitOn_intercalate '_' (fun w hw => (isWord_of_mem_words hw).2) hne]
  have hword : ∀ w ∈ front.splitOn '_' ++ back.splitOn '_', IsWord w := by
    rw [hsplit]
    exact fun w => isWord_of_mem_words
  have hfront := ends_of_joined (List.splitOn_ne_nil '_' front)
    fun w hw => hword w (List.mem_append_left _ hw)
  have hback := ends_of_joined (List.splitOn_ne_nil '_' back)
    fun w hw => hword w (List.mem_append_right _ hw)
  rw [joined, List.intercalate_splitOn] at hfront hback
  exact ⟨hfront.2, hback.1⟩

/-! ### Saving -/

/-- Names have the same key exactly if they have the same words. A key consists of the words with
one underscore between two of them, and there is no other underscore in it. What a store has for a
name is left alone when a recipe is saved under a name with other words; when a file is written,
numbers in it may be read as other ones. -/
theorem keyFor_identifies_words :
    (∀ m n : String, keyFor m = keyFor n ↔ words m = words n) ∧
    (∀ n : String, (keyFor n).toList = "recipe:".toList ++ joined (words n)) ∧
    (∀ (n : String) (front back : List Char), joined (words n) = front ++ '_' :: back →
      (∃ c ∈ front.getLast?, c ≠ '_') ∧ ∃ c ∈ back.head?, c ≠ '_') ∧
    ∀ (s s' : Store) (recipe : Recipe) (name : String), s.save recipe = .ok s' →
      words recipe.name ≠ words name →
        ∃ f found, KeepsFinite f ∧ (∀ entries, s = .memory entries → f = id) ∧
          s.get (keyFor name) = .ok found ∧
            s'.get (keyFor name) = .ok (found.map (Json.mapFloats f)) := by
  refine ⟨fun m n => keyFor_eq_iff, fun n => ?_, fun n front back => underscore_between, ?_⟩
  · rw [keyFor, String.toList_append, toList_slug]
  · intro s s' recipe name hsave hwords
    obtain ⟨f, hf, hmemory, hget⟩ := Store.exists_get_of_save hsave
    obtain ⟨found, hfound, hget⟩ := hget (keyFor name)
    rw [if_neg (mt keyFor_eq_iff.mp hwords)] at hget
    exact ⟨f, found, hf, hmemory, hfound, hget⟩

/-- A name of one word and a name of two. -/
theorem keyFor_identifies_words_login :
    ∃ s', (Store.memory [("recipe:log_in", .null)]).save ⟨"Login", 7, []⟩ = .ok s' ∧
      words "Login" ≠ words "Log in!" ∧ s'.get (keyFor "Log in!") = .ok (some .null) := by
  have hwords : words "Login" ≠ words "Log in!" := by decide
  refine ⟨_, rfl, hwords, ?_⟩
  obtain ⟨f, found, -, hid, hfound, hget⟩ := keyFor_identifies_words.2.2.2
    (.memory [("recipe:log_in", .null)]) _ ⟨"Login", 7, []⟩ "Log in!" rfl hwords
  have hkey : keyFor "Log in!" = "recipe:log_in" := by decide
  rw [hkey] at hfound
  cases hfound
  rw [hget, hid _ rfl]
  rfl

end PageScript.Recipe
