import PageScript.Proofs.Console

/-!
# Scripts line by line

A script is read line by line, and what a line holds does not depend on where it stands. So scripts
can be put one after another, and lines without a command can be put between the others: the first
line that is no command is the same one, only its number changes.

* `Script.parse_eq_parseLines_splitOn` — a script is read as what stands between its line feeds;
* `Script.parseLines_append` — lines that follow others are read if those are;
* `Script.parseLines_edit` — lines without a command are passed over;
* `Script.parse_append_and_edited` — both for the texts of scripts.
-/

namespace PageScript

open Text Line

/-! ### Carriage returns -/

namespace Text

/-- A blank at the end is trimmed. -/
theorem trim_concat {c : Char} (h : isBlank c = true) (cs : List Char) :
    trim (cs ++ [c]) = trim cs := by
  have hend : ∀ front : List Char, trimEnd (front ++ [c]) = trimEnd front := fun front => by
    rw [trimEnd_eq_rdropWhile, trimEnd_eq_rdropWhile, List.rdropWhile_concat_pos _ _ _ h]
  rw [trim, trimStart, List.dropWhile_append, trim, trimStart]
  split
  · next hempty =>
    -- There is nothing but white space.
    rw [List.isEmpty_iff.mp hempty, List.dropWhile_cons_of_pos h, List.dropWhile_nil]
  · exact hend _

/-- The carriage return at the end of a line is trimmed with it. -/
theorem trim_dropReturn (cs : List Char) : trim (dropReturn cs) = trim cs := by
  rw [dropReturn]
  split
  · next hlast =>
    obtain ⟨front, rfl⟩ := List.getLast?_eq_some_iff.mp hlast
    rw [List.dropLast_concat, trim_concat (by decide)]
  · rfl

/-- Between the line feeds of a text there is one piece more than there are line feeds. -/
theorem length_splitOn_newline (cs : List Char) :
    (cs.splitOn '\n').length = cs.count '\n' + 1 := by
  induction cs with
  | nil => rfl
  | cons c rest ih =>
    by_cases hc : c = '\n'
    · subst hc
      have hsplit := List.splitOn_append_cons_self (a := '\n') [] rest
      rw [List.nil_append, List.splitOn_nil] at hsplit
      rw [hsplit, List.length_append, ih, List.count_cons_self]
      exact Nat.add_comm 1 _
    · rw [List.splitOn_cons_eq_if_modifyHead, if_neg (by simpa using hc), List.length_modifyHead,
        ih, List.count_cons_of_ne hc]

/-- No line has a line break. -/
private theorem newline_notMem_of_mem_splitOn {cs : List Char} :
    ∀ piece ∈ cs.splitOn '\n', '\n' ∉ piece := by
  induction cs with
  | nil => simp
  | cons c rest ih =>
    rw [List.splitOn_cons_eq_if_modifyHead]
    split
    · exact List.forall_mem_cons.mpr ⟨List.not_mem_nil, ih⟩
    · next hc =>
      -- The first piece goes on to the left by a character that is no line feed.
      obtain ⟨piece, pieces, hpieces⟩ := List.exists_cons_of_ne_nil (List.splitOn_ne_nil '\n' rest)
      rw [hpieces] at ih ⊢
      obtain ⟨hpiece, hothers⟩ := List.forall_mem_cons.mp ih
      refine List.forall_mem_cons.mpr ⟨?_, hothers⟩
      rw [List.mem_cons, not_or]
      exact ⟨fun h => hc (by simp [← h]), hpiece⟩

end Text

namespace Script

variable {cs cs' : List Char} {first second lines : List (List Char)} {number : Nat}
  {e : ScriptError}

/-! ### One line after another -/

/-- A line is read as what is left of it without white space at its ends. -/
theorem parseLines_cons_congr (h : trim cs = trim cs') (rest : List (List Char)) :
    parseLines number (cs :: rest) = parseLines number (cs' :: rest) := by
  have hblank : isBlankOrComment cs = isBlankOrComment cs' := by
    rw [isBlankOrComment, isBlankOrComment, h]
  have hparse : Command.parse (String.ofList cs) = Command.parse (String.ofList cs') := by
    rw [← Command.parse_trimmed, trimmed, String.toList_ofList, h,
      ← Command.parse_trimmed (String.ofList cs'), trimmed, String.toList_ofList]
  rw [parseLines, parseLines, hblank, hparse]

/-- A line without a command is counted and not read. -/
theorem parseLines_cons_of_isBlankOrComment (h : isBlankOrComment cs = true)
    (rest : List (List Char)) : parseLines number (cs :: rest) = parseLines (number + 1) rest := by
  rw [parseLines, if_pos h]

/-- The numbers of lines begin where they are told to begin. -/
theorem parseLines_succ (number : Nat) (lines : List (List Char)) :
    parseLines (number + 1) lines =
      (parseLines number lines).mapError fun e => { e with line := e.line + 1 } := by
  induction lines generalizing number with
  | nil => rfl
  | cons cs rest ih =>
    rw [parseLines, parseLines]
    split
    · exact ih (number + 1)
    · cases Command.parse (String.ofList cs) with
      | error e => rfl
      | ok command =>
        dsimp only
        rw [ih (number + 1)]
        cases parseLines (number + 1) rest <;> rfl

/-- An error is on one of the lines that are read. -/
private theorem le_line_of_parseLines_eq_error (h : parseLines number lines = .error e) :
    number ≤ e.line := by
  induction lines generalizing number with
  | nil => cases h
  | cons cs rest ih =>
    rw [parseLines] at h
    split at h
    · exact Nat.le_of_succ_le (ih h)
    -- The error is on this line, or on a later one.
    · cases hparse : Command.parse (String.ofList cs) with
      | error e' =>
        rw [hparse] at h
        cases h
        exact Nat.le_refl _
      | ok command =>
        rw [hparse] at h
        cases hrest : parseLines (number + 1) rest with
        | error e' =>
          rw [hrest] at h
          cases h
          exact Nat.le_of_succ_le (ih hrest)
        | ok others =>
          rw [hrest] at h
          cases h

/-- Lines that follow others are read if those are, and their numbers go on where those end. -/
theorem parseLines_append (first second : List (List Char)) :
    parseLines number (first ++ second) =
      match parseLines number first with
      | .error e => .error e
      | .ok xs => (parseLines (number + first.length) second).map (xs ++ ·) := by
  induction first generalizing number with
  | nil => cases h : parseLines number second <;> simp [parseLines, Except.map, h]
  | cons cs rest ih =>
    have hnumber : number + (rest.length + 1) = number + 1 + rest.length := by omega
    rw [List.cons_append, List.length_cons, hnumber, parseLines, parseLines]
    split
    · exact ih
    · cases Command.parse (String.ofList cs) with
      | error e => rfl
      | ok command =>
        dsimp only
        rw [ih]
        -- The commands of the lines after this one, of the first lines and of the second ones.
        cases parseLines (number + 1) rest with
        | error e => rfl
        | ok xs => cases parseLines (number + 1 + rest.length) second <;> rfl

/-- Lines further down are read alike, with the numbers of their errors moved. -/
theorem parseLines_add (offset : Nat) (lines : List (List Char)) :
    parseLines (number + offset) lines =
      (parseLines number lines).mapError fun e => { e with line := e.line + offset } := by
  induction offset with
  | zero => cases parseLines number lines <;> rfl
  | succ offset ih =>
    rw [← Nat.add_assoc, parseLines_succ, ih]
    cases parseLines number lines <;> rfl

/-! ### What stands between line feeds -/

/-- Of a text the lines are read as what stands between its line feeds: a carriage return at the end
of a line does not matter, and neither does an empty line at the end. -/
theorem parseLines_linesAfter {line : List Char} (hline : '\n' ∉ line) :
    parseLines number (linesAfter line cs) =
      parseLines number ((line.reverse ++ cs).splitOn '\n') := by
  -- The induction is on what is still to be read; `line` is what has been read of this line.
  induction cs generalizing line number with
  | nil =>
    have hreverse : '\n' ∉ line.reverse := by simpa using hline
    rw [linesAfter, List.append_nil, List.splitOn_eq_singleton hreverse]
    split
    · next hempty =>
      rw [List.isEmpty_iff.mp hempty]
      exact (parseLines_cons_of_isBlankOrComment rfl []).symm
    · rfl
  | cons c rest ih =>
    rw [linesAfter]
    split
    · next hc =>
      subst hc
      have hreverse : '\n' ∉ line.reverse := by simpa using hline
      rw [List.splitOn_append_cons_self, List.splitOn_eq_singleton hreverse,
        List.singleton_append, parseLines_cons_congr (trim_dropReturn _), parseLines, parseLines,
        ih List.not_mem_nil, List.reverse_nil, List.nil_append]
    · next hc =>
      have hcons : '\n' ∉ c :: line := by
        rw [List.mem_cons, not_or]
        exact ⟨Ne.symm hc, hline⟩
      rw [ih hcons, List.reverse_cons, List.append_assoc, List.singleton_append]

/-- A script is read line by line, whether it ends in a line break or not. -/
theorem parse_eq_parseLines_splitOn (script : String) :
    parse script = parseLines 1 (script.toList.splitOn '\n') :=
  parseLines_linesAfter List.not_mem_nil

/-! ### Lines without a command -/

/-- What is done to the next line of a script. -/
inductive LineEdit where
  /-- A line that holds no command is put before it. -/
  | insert (line : List Char) (hblank : isBlankOrComment line = true) (hline : '\n' ∉ line)
  /-- It stays as it is. -/
  | keep
  /-- A carriage return is put at its end. -/
  | addReturn

/-- The lines of a script after some edits. Those that no edit is left for stay as they are. -/
def edit : List LineEdit → List (List Char) → List (List Char)
  | [], lines => lines
  | .insert line _ _ :: edits, lines => line :: edit edits lines
  | _ :: edits, [] => edit edits []
  | .keep :: edits, line :: rest => line :: edit edits rest
  | .addReturn :: edits, line :: rest => (line ++ ['\r']) :: edit edits rest

/-- The number that a line has after some edits, counted from one. -/
def editedNumber : List LineEdit → Nat → Nat
  | [], number => number
  | .insert _ _ _ :: edits, number => editedNumber edits number + 1
  | _ :: edits, number => if number ≤ 1 then number else editedNumber edits (number - 1) + 1

/-- The text of a script after some edits of its lines. -/
def edited (edits : List LineEdit) (script : String) : String :=
  String.ofList (['\n'].intercalate (edit edits (script.toList.splitOn '\n')))

/-- A line that stays comes before the edits of the others. -/
theorem parseLines_cons_edit {edits : List LineEdit} (cs : List Char)
    (ih : parseLines 1 (edit edits lines) =
      (parseLines 1 lines).mapError fun e => { e with line := editedNumber edits e.line }) :
    parseLines 1 (cs :: edit edits lines) =
      (parseLines 1 (cs :: lines)).mapError fun e =>
        { e with line := if e.line ≤ 1 then e.line else editedNumber edits (e.line - 1) + 1 } := by
  rw [parseLines, parseLines, parseLines_succ, parseLines_succ 1 lines, ih]
  cases hlines : parseLines 1 lines with
  | error e =>
    -- The error is on a line after this one.
    have hle := le_line_of_parseLines_eq_error hlines
    have hnumber : ¬ e.line + 1 ≤ 1 := by omega
    cases isBlankOrComment cs <;> cases Command.parse (String.ofList cs) <;>
      simp [Except.mapError, Except.map, hnumber]
  | ok commands =>
    cases isBlankOrComment cs <;> cases Command.parse (String.ofList cs) <;>
      simp [Except.mapError, Except.map]

/-- Lines without a command are passed over, and carriage returns do not matter: only the number of
the line changes that is no command. -/
theorem parseLines_edit (edits : List LineEdit) (lines : List (List Char)) :
    parseLines 1 (edit edits lines) =
      (parseLines 1 lines).mapError fun e => { e with line := editedNumber edits e.line } := by
  fun_induction edit edits lines with
  | case1 lines => cases parseLines 1 lines <;> rfl
  | case2 line hblank hline edits lines ih =>
    rw [parseLines_cons_of_isBlankOrComment hblank, parseLines_succ, ih]
    cases parseLines 1 lines <;> rfl
  | case3 _ edits _ ih => exact ih
  | case4 edits line rest ih => exact parseLines_cons_edit line ih
  | case5 edits line rest ih =>
    rw [parseLines_cons_congr (trim_concat (by decide) line)]
    exact parseLines_cons_edit line ih

/-- Edits do not put line feeds into lines. -/
theorem newline_notMem_of_mem_edit {edits : List LineEdit} (h : ∀ line ∈ lines, '\n' ∉ line) :
    ∀ line ∈ edit edits lines, '\n' ∉ line := by
  fun_induction edit edits lines with
  | case1 lines => exact h
  | case2 line _ hline edits lines ih => exact List.forall_mem_cons.mpr ⟨hline, ih h⟩
  | case3 _ edits _ ih => exact ih h
  | case4 edits line rest ih =>
    obtain ⟨hline, hrest⟩ := List.forall_mem_cons.mp h
    exact List.forall_mem_cons.mpr ⟨hline, ih hrest⟩
  | case5 edits line rest ih =>
    obtain ⟨hline, hrest⟩ := List.forall_mem_cons.mp h
    exact List.forall_mem_cons.mpr ⟨by simp [hline], ih hrest⟩

/-- Edits leave at least one line. -/
private theorem edit_ne_nil {edits : List LineEdit} (h : lines ≠ []) : edit edits lines ≠ [] := by
  fun_cases edit edits lines with
  | case3 => exact absurd rfl h
  | _ => simp_all

/-- The lines of an edited script are the edited lines of the script. -/
theorem splitOn_edited (edits : List LineEdit) (script : String) :
    (edited edits script).toList.splitOn '\n' = edit edits (script.toList.splitOn '\n') := by
  rw [edited, String.toList_ofList]
  exact List.splitOn_intercalate '\n' (newline_notMem_of_mem_edit newline_notMem_of_mem_splitOn)
    (edit_ne_nil (List.splitOn_ne_nil _ _))

/-- A script followed by a line feed and another script fails as the first one does if that fails.
Otherwise it fails as the second one does, on a line whose number is greater by the number of the
lines before it, and if that does not fail either, it has the commands of the one and then those of
the other. Lines that hold no command can be put anywhere, and lines can end in a carriage return and
a line feed: a script that is edited so has the same commands, or fails for the same reason on the
same line, which has another number now. -/
theorem parse_append_and_edited :
    (∀ a b : String, parse (a ++ "\n" ++ b) =
      match parse a, parse b with
      | .error e, _ => .error e
      | .ok _, .error e => .error ⟨a.toList.count '\n' + 1 + e.line, e.error⟩
      | .ok xs, .ok ys => .ok (xs ++ ys)) ∧
    ∀ (edits : List LineEdit) (script : String), parse (edited edits script) =
      (parse script).mapError fun e => { e with line := editedNumber edits e.line } := by
  constructor
  · intro a b
    -- The line break in between ends the last line of the first script.
    have hsplit : (a ++ "\n" ++ b).toList.splitOn '\n' =
        a.toList.splitOn '\n' ++ b.toList.splitOn '\n' := by
      rw [String.toList_append, String.toList_append, List.append_assoc]
      exact List.splitOn_append_cons_self _ _
    rw [parse_eq_parseLines_splitOn, hsplit, parseLines_append, ← parse_eq_parseLines_splitOn,
      parseLines_add, ← parse_eq_parseLines_splitOn, length_splitOn_newline]
    cases parse a with
    | error e => rfl
    | ok xs =>
      cases parse b with
      | error e => simp [Except.mapError, Except.map, Nat.add_comm]
      | ok ys => rfl
  · intro edits script
    rw [parse_eq_parseLines_splitOn, splitOn_edited, parseLines_edit,
      ← parse_eq_parseLines_splitOn]

/-- A comment before the first line, a carriage return at its end, and a blank line at the end. -/
example :
    edited [.insert ['#'] (by decide) (by decide), .addReturn, .keep, .insert [] rfl (by decide)]
      "wait 1\nbreak" = "#\nwait 1\r\nbreak\n" := by
  decide +kernel

end Script

end PageScript
