import PageScript.Console
import PageScript.CommandLine.Basic
import PageScript.Proofs.Grammar.Reading

/-!
# Scripts that are typed

The lines of a script can be typed into a session one after another. A script and a session skip
blank lines and lines that begin with `#`, and read the others in the same way, but only a script
skips lines that begin with two slashes.

* `Script.parse_eq_ok_iff` — a script is read when all its lines are that hold a command;
* `seen_converse` — a session without a word that ends it is the runs of its commands, one for each
  line, with the errors of the other lines between them;
* `Script.seen_converse_of_parse` — the runs of a script that is typed are those of its commands, in
  order, and nothing else is shown, except for an error for each line that begins with two slashes.
-/

namespace PageScript

open Text Line

/-! ### Trimming twice -/

namespace Text

/-- Cutting off the blanks at the end twice is doing so once. -/
theorem trimEnd_trimEnd (cs : List Char) : trimEnd (trimEnd cs) = trimEnd cs := by
  rw [trimEnd_eq_rdropWhile, trimEnd_eq_rdropWhile, List.rdropWhile_idempotent]

/-- Trimming twice is trimming once. -/
theorem trim_trim (cs : List Char) : trim (trim cs) = trim cs := by
  have hhead : ∀ c ∈ (trim cs).head?, isBlank c = false := fun c hc =>
    not_of_mem_head?_dropWhile cs c (mem_head?_of_mem_head?_trimEnd hc)
  rw [trim, trimStart_eq_self hhead, trim, trimEnd_trimEnd]

/-- A trimmed text, as a list. -/
theorem toList_trimmed (s : String) : (trimmed s).toList = trim s.toList := by
  rw [trimmed, String.toList_ofList]

/-- A trimmed text is trimmed already. -/
theorem trimmed_trimmed (s : String) : trimmed (trimmed s) = trimmed s := by
  rw [trimmed, toList_trimmed, trim_trim, trimmed]

end Text

/-- White space around a line does not matter. -/
theorem Command.parse_trimmed (s : String) : parse (trimmed s) = parse s := by
  have hline : Line.normalize (trimmed s) = Line.normalize s := by
    rw [Line.normalize, Line.normalize, normalChars, normalChars, toList_trimmed, trim_trim]
  rw [parse, parse, hline, trimmed_trimmed]

/-! ### Kinds of lines -/

namespace Line

/-- A line that is blank or begins with `#`. -/
def isSilent (cs : List Char) : Bool :=
  (trim cs).head?.all (· = '#')

/-- A line that begins with two slashes. -/
def isSlashComment (cs : List Char) : Bool :=
  ['/', '/'].isPrefixOf (trim cs)

/-- A script skips the lines that are silent at the console, and those that begin with two slashes.
-/
theorem isBlankOrComment_eq (cs : List Char) :
    isBlankOrComment cs = (isSilent cs || isSlashComment cs) := by
  rw [isBlankOrComment, isSilent, isSlashComment]
  split
  · next h => simp [h]
  · next h => simp [h]
  · next h => simp [h, List.isPrefixOf]
  -- What is left begins neither with `#` nor with two slashes.
  · next hblank hhash hslashes =>
    symm
    rw [Bool.or_eq_false_iff, ← Bool.not_eq_true, ← Bool.not_eq_true, List.isPrefixOf_iff_prefix]
    constructor
    · intro h
      obtain ⟨c, rest, hline⟩ := List.exists_cons_of_ne_nil hblank
      obtain rfl : c = '#' := by simpa [hline] using h
      exact hhash rest hline
    · rintro ⟨rest, hline⟩
      exact hslashes rest hline.symm

/-- No verb begins with a slash. -/
theorem ruleFor?_eq_none {verb : List Char} (h : verb.head? = some '/') :
    Grammar.ruleFor? (String.ofList verb) = none := by
  have hrules : ∀ r ∈ Grammar.rules, r.verb.toList.head? ≠ some '/' := by decide
  rw [Grammar.ruleFor?, List.find?_eq_none]
  intro r hr heq
  have heq : r.verb = String.ofList verb := by simpa using heq
  apply hrules r hr
  rw [heq, String.toList_ofList, h]

/-- A word that begins with a slash stands for a verb that does. -/
theorem head?_verbOfWord {word : List Char} (h : word.head? = some '/') :
    (verbOfWord word).head? = some '/' := by
  have hcolons : (dropColons word).head? = some '/' := by
    have hword : dropColons word = word.rdropWhile (· = ':') := rfl
    obtain ⟨dropped, hdropped⟩ := List.rdropWhile_prefix (p := (· = ':')) word
    rw [← hword] at hdropped
    cases hkept : dropColons word with
    | nil =>
      -- The slash itself is no colon.
      rw [hword, List.rdropWhile_eq_nil_iff] at hkept
      have := hkept '/' (List.mem_of_mem_head? h)
      cases this
    | cons c kept =>
      rw [← hdropped, hkept] at h
      exact h
  have hlower : (lowerCase (dropColons word)).head? = some '/' := by
    obtain ⟨rest, hrest⟩ := List.head?_eq_some_iff.mp hcolons
    have hslash : lowerChar '/' = ['/'] := by decide
    rw [hrest, lowerCase, lowerAfter, if_neg (by decide), hslash]
    rfl
  have halias : ∀ verb : String, verb.toList.head? = some '/' → canonicalVerb verb = verb := by
    intro verb hverb
    unfold canonicalVerb
    split <;> first | rfl | cases hverb
  rw [verbOfWord, halias _ (by rwa [String.toList_ofList]), String.toList_ofList, hlower]

end Line

/-- A line that begins with two slashes is no command, since there is no such verb. -/
theorem Command.parse_of_isSlashComment {cs : List Char} (h : isSlashComment cs = true) :
    parse (String.ofList cs) =
      .error (.unknownVerb (Line.verb (Line.normalize (String.ofList cs)))) := by
  obtain ⟨rest, hline⟩ := List.isPrefixOf_iff_prefix.mp h
  have hne : trim cs ≠ [] := by simp [← hline]
  -- The first word begins with a slash, which is no white space.
  have hword : (splitWord (trim cs)).1.head? = some '/' := by
    rw [← hline, splitWord, List.span_eq_takeWhile_dropWhile]
    rfl
  have hslash := head?_verbOfWord hword
  have hverbne : verbOfWord (splitWord (trim cs)).1 ≠ [] := by
    rintro hnil
    rw [hnil] at hslash
    cases hslash
  have hline : Line.normalize (String.ofList cs) = String.ofList
      (assemble (verbOfWord (splitWord (trim cs)).1) (trimStart (splitWord (trim cs)).2)) := by
    rw [Line.normalize, String.toList_ofList, normalChars_eq_assemble hne]
  have hverb : Line.verb (Line.normalize (String.ofList cs)) =
      String.ofList (verbOfWord (splitWord (trim cs)).1) := by
    rw [hline]
    exact verb_ofList_assemble hverbne
      (not_isBlank_of_mem_verbOfWord (not_isBlank_of_mem_splitWord _))
      (not_of_mem_head?_dropWhile _)
  have hempty : (Line.normalize (String.ofList cs)).isEmpty = false := by
    rw [← Bool.not_eq_true, String.isEmpty_iff, hline, ← String.toList_eq_nil_iff,
      String.toList_ofList, assemble_eq_append]
    exact fun hnil => hverbne (List.append_eq_nil_iff.mp hnil).1
  rw [parse]
  simp only [hempty, hverb, ruleFor?_eq_none hslash, Bool.false_eq_true, if_false]

/-! ### Lines of a script -/

/-- A script is read when all its lines are that hold a command. -/
theorem Script.parseLines_eq_ok_iff {lines : List (List Char)} :
    ∀ {number : Nat} {commands : List Command}, parseLines number lines = .ok commands ↔
      (lines.filter (!isBlankOrComment ·)).map (fun cs => Command.parse (String.ofList cs)) =
        commands.map .ok := by
  induction lines with
  | nil =>
    intro number commands
    cases commands <;> simp [parseLines]
  | cons cs rest ih =>
    intro number commands
    rw [parseLines]
    cases hblank : isBlankOrComment cs with
    | true => simpa [hblank] using ih
    | false =>
      cases hparse : Command.parse (String.ofList cs) with
      | error e => cases commands <;> simp [hblank, hparse]
      | ok command =>
        -- The command of the line comes before those of the lines after it.
        have hmap : (parseLines (number + 1) rest).map (command :: ·) = .ok commands ↔
            ∃ others, parseLines (number + 1) rest = .ok others ∧ command :: others = commands := by
          cases parseLines (number + 1) rest <;> simp [Except.map]
        simp only [Bool.false_eq_true, if_false, hmap, ih]
        cases commands with
        | nil => simp [hblank, hparse]
        | cons first others => simp [hblank, hparse, and_comm]

/-! ### Runs of a session -/

@[simp]
theorem Shown.isPrompt_prompt : Shown.prompt.isPrompt = true := rfl

@[simp]
theorem Shown.isPrompt_ofParseError (e : ParseError) :
    (Shown.ofParseError e).isPrompt = false := rfl

section

variable {σ : Type} (submit : σ → Command → σ × Option (List Shown))

/-- What a session comes to when the lines that are neither skipped nor end it are given. -/
def respond (s : Session σ) : List (Except ParseError Command) → Session σ × Bool
  | [] => (s, true)
  | .error e :: rest => respond { s with shown := s.shown ++ [.ofParseError e] } rest
  | .ok command :: rest =>
    match submit s.state command with
    | (state, none) => ({ s with state := state }, false)
    | (state, some shown) => respond { s with state := state, shown := s.shown ++ shown } rest

/-- The state after a session, what was shown without the signs that a line may be typed, and
whether the session ended. -/
def seen (x : Session σ × Bool) : σ × List Shown × Bool :=
  (x.1.state, x.1.shown.filter (!·.isPrompt), x.2)

end

/-- The lines that a session does not skip, as they are read. -/
def typed (lines : List (List Char)) : List (Except ParseError Command) :=
  (lines.filter (!isSilent ·)).map fun cs => Command.parse (String.ofList cs)

/-- A silent line is not typed. -/
theorem typed_cons_of_isSilent {cs : List Char} (h : isSilent cs = true)
    (rest : List (List Char)) : typed (cs :: rest) = typed rest := by
  simp [typed, h]

/-- Any other line is typed as a command. -/
theorem typed_cons {cs : List Char} (h : isSilent cs = false) (rest : List (List Char)) :
    typed (cs :: rest) = Command.parse (String.ofList cs) :: typed rest := by
  simp [typed, h]

/-- The error of a line that is no command. -/
def error? : Except ParseError Command → Option ParseError
  | .ok _ => none
  | .error e => some e

/-- A session takes a line for what it is without white space around it. -/
theorem TypedLine.of_ofList (exits : List String) (cs : List Char) :
    TypedLine.of exits (String.ofList cs) =
      if isSilent cs then .skip
      else if exits.contains (trimmed (String.ofList cs)) then .exit
      else match Command.parse (String.ofList cs) with
        | .ok c => .command c
        | .error e => .invalid e := by
  have hsilent : ((trimmed (String.ofList cs)).isEmpty ||
      (trimmed (String.ofList cs)).startsWith "#") = isSilent cs := by
    rw [Bool.eq_iff_iff, Bool.or_eq_true, String.isEmpty_iff, String.startsWith_string_iff,
      ← String.toList_eq_nil_iff, toList_trimmed, String.toList_ofList, isSilent]
    cases trim cs with
    | nil => simp
    | cons c rest => simp [List.cons_prefix_cons, eq_comm]
  cases hparse : Command.parse (String.ofList cs) with
  | ok c => simp [TypedLine.of, hsilent, Command.parse_trimmed, hparse]
  | error e => simp [TypedLine.of, hsilent, Command.parse_trimmed, hparse]

section

variable {σ : Type} {submit : σ → Command → σ × Option (List Shown)} {exits : List String}
  {fault : Option Utf8Fault}

/-- A session without a word that ends it is the runs of its commands, and the errors of its other
lines. -/
theorem seen_converse {lines : List (List Char)}
    (hexits : ∀ cs ∈ lines, isSilent cs = false → trimmed (String.ofList cs) ∉ exits) :
    ∀ {s s' : Session σ}, s.state = s'.state →
      s.shown.filter (!·.isPrompt) = s'.shown.filter (!·.isPrompt) →
      seen (converse exits submit fault s (lines.map String.ofList)) =
        seen (respond submit s' (typed lines)) := by
  induction lines with
  | nil =>
    intro s s' hstate hshown
    simp [converse, respond, typed, seen, hstate, hshown]
  | cons cs rest ih =>
    intro s s' hstate hshown
    have ih := @ih fun cs hcs => hexits cs (List.mem_cons_of_mem _ hcs)
    -- The sign that a line may be typed does not count.
    have hprompt : (s.shown ++ [Shown.prompt]).filter (!·.isPrompt) =
        s'.shown.filter (!·.isPrompt) := by
      simp [hshown]
    rw [List.map_cons, converse]
    simp only [TypedLine.of_ofList]
    cases hsilent : isSilent cs with
    | true =>
      rw [typed_cons_of_isSilent hsilent]
      exact ih hstate hprompt
    | false =>
      have hexit : exits.contains (trimmed (String.ofList cs)) = false := by
        simpa using hexits cs List.mem_cons_self hsilent
      rw [hexit, typed_cons hsilent]
      cases Command.parse (String.ofList cs) with
      | error e =>
        refine ih hstate ?_
        simp [hshown]
      | ok command =>
        simp only [Bool.false_eq_true, if_false, respond, ← hstate]
        cases hrun : submit s.state command with
        | mk state shown =>
          cases shown with
          | none => simp [seen, hshown]
          | some shown =>
            refine ih rfl ?_
            simp [hshown]

end

/-! ### Scripts that are typed -/

section

variable {lines : List (List Char)} {number : Nat} {commands : List Command}

/-- A line of a script that is read is skipped or holds a command. -/
theorem Script.exists_parse_of_mem (h : parseLines number lines = .ok commands) {cs : List Char}
    (hcs : cs ∈ lines) (hblank : isBlankOrComment cs = false) :
    ∃ c, Command.parse (String.ofList cs) = .ok c := by
  have hmem : Command.parse (String.ofList cs) ∈ commands.map (Except.ok (ε := ParseError)) := by
    rw [← parseLines_eq_ok_iff.mp h]
    exact List.mem_map_of_mem (List.mem_filter.mpr ⟨hcs, by simp [hblank]⟩)
  obtain ⟨c, -, hc⟩ := List.mem_map.mp hmem
  exact ⟨c, hc.symm⟩

/-- Two slashes are no `#`. -/
theorem Line.isSilent_of_isSlashComment {cs : List Char} (h : isSlashComment cs = true) :
    isSilent cs = false := by
  obtain ⟨rest, hline⟩ := List.isPrefixOf_iff_prefix.mp h
  rw [isSilent, ← hline]
  rfl

/-- What a session reads from a script are the commands of the script, and the errors of the lines
that begin with two slashes. -/
theorem typed_of_parseLines :
    ∀ {lines : List (List Char)} {number : Nat} {commands : List Command},
      Script.parseLines number lines = .ok commands →
      (typed lines).filterMap Except.toOption = commands ∧
        (typed lines).filterMap error? = (lines.filter isSlashComment).map fun cs =>
          .unknownVerb (Line.verb (Line.normalize (String.ofList cs))) := by
  intro lines
  induction lines with
  | nil =>
    intro number commands h
    obtain rfl := Except.ok.inj h
    exact ⟨rfl, rfl⟩
  | cons cs rest ih =>
    intro number commands h
    rw [Script.parseLines, isBlankOrComment_eq] at h
    cases hslash : isSlashComment cs with
    | true =>
      -- The script skips the line, and the session does not.
      rw [hslash, Bool.or_true, if_pos rfl] at h
      obtain ⟨hcommands, herrors⟩ := ih h
      rw [typed_cons (isSilent_of_isSlashComment hslash), Command.parse_of_isSlashComment hslash,
        List.filter_cons_of_pos hslash, List.map_cons, ← herrors]
      exact ⟨hcommands, rfl⟩
    | false =>
      rw [hslash, Bool.or_false] at h
      rw [List.filter_cons_of_neg (by simp [hslash])]
      cases hsilent : isSilent cs with
      | true =>
        rw [if_pos hsilent] at h
        rw [typed_cons_of_isSilent hsilent]
        exact ih h
      | false =>
        rw [hsilent] at h
        rw [typed_cons hsilent]
        cases hparse : Command.parse (String.ofList cs) with
        | error e =>
          rw [hparse] at h
          cases h
        | ok command =>
          rw [hparse] at h
          cases hrest : Script.parseLines (number + 1) rest with
          | error e =>
            rw [hrest] at h
            cases h
          | ok others =>
            rw [hrest] at h
            obtain rfl := Except.ok.inj h
            obtain ⟨hcommands, herrors⟩ := ih hrest
            exact ⟨congrArg (command :: ·) hcommands, herrors⟩

/-- Without lines that begin with two slashes, a session reads the commands of a script and no
others. -/
theorem typed_eq_map_ok (h : Script.parseLines number lines = .ok commands)
    (hslash : ∀ cs ∈ lines, isSlashComment cs = false) : typed lines = commands.map .ok := by
  rw [← Script.parseLines_eq_ok_iff.mp h, typed]
  congr 1
  refine List.filter_congr fun cs hcs => ?_
  rw [isBlankOrComment_eq, hslash cs hcs, Bool.or_false]

/-- No line of a script that is read ends a session. -/
theorem trimmed_notMem_exits (h : Script.parseLines number lines = .ok commands) {cs : List Char}
    (hcs : cs ∈ lines) (hsilent : isSilent cs = false) :
    trimmed (String.ofList cs) ∉ CommandLine.exits := by
  -- The words that end a session neither are commands nor begin with two slashes.
  have hwords : ∀ word ∈ CommandLine.exits, isSlashComment word.toList = false ∧
      (Command.parse word).toOption = none := by
    decide +kernel
  intro hmem
  obtain ⟨hslash, hparse⟩ := hwords _ hmem
  rw [toList_trimmed, String.toList_ofList, isSlashComment, trim_trim] at hslash
  have hblank : isBlankOrComment cs = false := by
    rw [isBlankOrComment_eq, hsilent]
    exact hslash
  obtain ⟨c, hc⟩ := Script.exists_parse_of_mem h hcs hblank
  rw [Command.parse_trimmed, hc] at hparse
  cases hparse

end

/-- A script that is read can be typed. The commands that are run are those of the script, one run
each and in order, and each line that begins with two slashes is an error. Without such lines
nothing is shown but the runs. -/
theorem Script.seen_converse_of_parse {script : String} {commands : List Command}
    (h : parse script = .ok commands) {σ : Type} (submit : σ → Command → σ × Option (List Shown))
    (fault : Option Utf8Fault) (s : Session σ) :
    let lines := Text.lines script.toList
    seen (converse CommandLine.exits submit fault s (lines.map String.ofList)) =
        seen (respond submit s (typed lines)) ∧
      (typed lines).filterMap Except.toOption = commands ∧
      ((typed lines).filterMap error? = (lines.filter isSlashComment).map fun cs =>
        .unknownVerb (Line.verb (Line.normalize (String.ofList cs)))) ∧
      ((∀ cs ∈ lines, isSlashComment cs = false) → typed lines = commands.map .ok) := by
  obtain ⟨hcommands, herrors⟩ := typed_of_parseLines h
  exact ⟨seen_converse (fun cs hcs => trimmed_notMem_exits h hcs) rfl rfl, hcommands, herrors,
    typed_eq_map_ok h⟩

/-- A script with a comment and a blank line. -/
theorem Script.seen_converse_of_parse_wait :
    parse "# note\n wait 1 \n\nbreak" = .ok [.wait 1, .break] ∧
      seen (converse CommandLine.exits (fun log c => (log ++ [c], some [.out c.display])) none
          ⟨[], [], none⟩ ((Text.lines "# note\n wait 1 \n\nbreak".toList).map String.ofList)) =
        ([.wait 1, .break], [.out "wait 1", .out "break"], true) := by
  have h : parse "# note\n wait 1 \n\nbreak" = .ok [.wait 1, .break] := by decide +kernel
  obtain ⟨hseen, -, -, htyped⟩ := Script.seen_converse_of_parse h
    (fun log c => (log ++ [c], some [.out c.display])) none ⟨[], [], none⟩
  refine ⟨h, ?_⟩
  rw [hseen, htyped (by decide +kernel)]
  decide +kernel

/-- A script that is only a comment with two slashes has no commands, and is an error when it is
typed. -/
theorem Script.seen_converse_slashes :
    parse "// note" = .ok [] ∧
      seen (converse CommandLine.exits (fun log c => (log ++ [c], some [.out c.display])) none
          ⟨[], [], none⟩ ((Text.lines "// note".toList).map String.ofList)) =
        ([], [.err "Error: Unknown command verb '//'"], true) := by
  decide +kernel

end PageScript
