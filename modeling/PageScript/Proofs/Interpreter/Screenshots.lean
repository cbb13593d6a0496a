import Mathlib.Data.List.Pairwise
import Mathlib.Logic.Function.Basic
import PageScript.Proofs.Interpreter.Progress
import PageScript.Proofs.Transition

/-!
# Files of screenshots

A step that takes a screenshot reads the clock of the day and writes the image into a file that is
named for the time it has read. The clock counts milliseconds, and nothing else goes into the name.
The module follows the images of any number of runs from the page to the disk, while the clock never
goes back: what keeps two images apart, and how long a file keeps its image.

The model is:

* `shotsFrom last exchanges` — the images written, in order, each with the last time read before it;
* `Disk.Goes` — what a write leaves at its path, and elsewhere;
* `Interpreter.Played config` — a whole run of an interpreter, with what is seen of it.

The module proves:

* `imagePath_inj` — the files of two times differ;
* `Interpreter.Accounts` — what the exchanges of some steps and their entries have to do with each
  other, which one step shows (`accounts_of_comesTo`) and any number of them keep
  (`Accounts.append`);
* `Disk.kept_of_shots` — an image stays if all later ones have other paths;
* `Interpreter.screenshots_kept` — over all runs, two images share a path exactly if they were taken
  within one millisecond, and an image stays unless the next one is taken within its millisecond.
-/

namespace PageScript

open Program

variable {directory path : String} {last now : UInt64} {exchanges more : List Exchange}

/-! ### The names of files -/

/-- The file of an image that is taken at a time. -/
def imagePath (directory : String) (now : UInt64) : String :=
  joinPath directory ("screenshot-" ++ toString now.toNat ++ ".png")

/-- The files of a directory have its text in front of their names. -/
theorem exists_joinPath_eq (directory : String) :
    ∃ front, ∀ file, joinPath directory file = front ++ file := by
  by_cases hempty : directory.isEmpty = true
  · exact ⟨"", fun file => by rw [joinPath, if_pos hempty, String.empty_append]⟩
  · by_cases hslash : directory.endsWith "/" = true
    · exact ⟨directory, fun file => by rw [joinPath, if_neg hempty, if_pos hslash]⟩
    · exact ⟨directory ++ "/", fun file => by rw [joinPath, if_neg hempty, if_neg hslash]⟩

/-- The digits of a number give the number. -/
theorem toString_injective : Function.Injective (toString : Nat → String) := by
  have hread : ∀ n : Nat, Nat.ofDigitChars 10 (toString n).toList 0 = n := fun n => by
    have hdigits : (toString n).toList = Nat.toDigits 10 n := String.toList_ofList
    rw [hdigits, Nat.ofDigitChars_ten_toDigits]
  intro m n h
  rw [← hread m, h, hread n]

/-- The files of two times differ. -/
theorem imagePath_inj {now now' : UInt64} :
    imagePath directory now = imagePath directory now' ↔ now = now' := by
  obtain ⟨front, hfront⟩ := exists_joinPath_eq directory
  rw [imagePath, imagePath, hfront, hfront, String.append_right_inj, String.append_left_inj,
    String.append_right_inj]
  exact toString_injective.eq_iff.trans UInt64.toNat_inj

/-! ### Images -/

/-- An image that was to be written. -/
structure Shot where
  /-- The file it was written into. -/
  path : String
  /-- The time that was read last before. -/
  time : UInt64
  /-- The bytes of the image. -/
  image : List UInt8
  /-- Whether the file took it. -/
  outcome : Except FileError Unit

/-- The file took the image. -/
def Shot.isWritten (s : Shot) : Bool :=
  s.outcome.isOk

namespace Exchange

/-- The time read from the clock of the day. -/
def reading? : Exchange → Option UInt64
  | ⟨.wallClock, now⟩ => some now
  | _ => none

/-- The image that the page gives. -/
def captured? : Exchange → Option (List UInt8)
  | ⟨.page .screenshot, .ok image⟩ => some image
  | _ => none

/-- The image that is to be written, if a time was read last. -/
def shot? (last : UInt64) : Exchange → Option Shot
  | ⟨.writeImage path image, outcome⟩ => some ⟨path, last, image, outcome⟩
  | _ => none

/-- What is not about images captures none. -/
private theorem captured?_eq_none {x : Exchange} (h : x.effect.isOfImage = false) :
    x.captured? = none := by
  obtain ⟨effect, answer⟩ := x
  cases effect with
  | page request =>
    cases request with
    | screenshot => cases h
    | _ => rfl
  | _ => rfl

/-- What is not about images leaves no shot. -/
private theorem shot?_eq_none {x : Exchange} (h : x.effect.isOfImage = false) :
    x.shot? last = none := by
  obtain ⟨effect, answer⟩ := x
  cases effect with
  | writeImage path image => cases h
  | _ => rfl

end Exchange

/-- The images to be written among some exchanges, in order, each with the last time read before
it. -/
def shotsFrom (last : UInt64) : List Exchange → List Shot
  | [] => []
  | x :: rest => (x.shot? last).toList ++ shotsFrom (x.reading?.getD last) rest

/-- The time read last after some exchanges. -/
def lastReading (last : UInt64) (exchanges : List Exchange) : UInt64 :=
  exchanges.foldl (fun last x => x.reading?.getD last) last

/-- The shots of two runs, the second one starting from the last reading of the clock. -/
theorem shotsFrom_append (last : UInt64) (exchanges more : List Exchange) :
    shotsFrom last (exchanges ++ more) =
      shotsFrom last exchanges ++ shotsFrom (lastReading last exchanges) more := by
  induction exchanges generalizing last with
  | nil => rfl
  | cons x rest ih =>
    rw [List.cons_append, shotsFrom, shotsFrom, ih, List.append_assoc]
    rfl

/-- Without images there are no shots. -/
theorem shotsFrom_eq_nil (h : ∀ x ∈ exchanges, x.effect.isOfImage = false) :
    shotsFrom last exchanges = [] := by
  induction exchanges generalizing last with
  | nil => rfl
  | cons x rest ih =>
    obtain ⟨hx, hrest⟩ := List.forall_mem_cons.mp h
    rw [shotsFrom, Exchange.shot?_eq_none hx, ih hrest]
    rfl

/-- An image among others was written at some point, and those after it later on. -/
theorem exists_of_shotsFrom_eq {before after : List Shot} {shot : Shot}
    (h : shotsFrom last exchanges = before ++ shot :: after) :
    ∃ earlier later, exchanges =
        earlier ++ ⟨.writeImage shot.path shot.image, shot.outcome⟩ :: later ∧
      after = shotsFrom shot.time later := by
  induction exchanges generalizing last before with
  | nil => simp [shotsFrom] at h
  | cons x rest ih =>
    obtain ⟨effect, answer⟩ := x
    -- the image is written here, or among the exchanges that follow
    have hrest : ∀ before, shotsFrom ((⟨effect, answer⟩ : Exchange).reading?.getD last) rest =
        before ++ shot :: after → ∃ earlier later, ⟨effect, answer⟩ :: rest =
          earlier ++ ⟨.writeImage shot.path shot.image, shot.outcome⟩ :: later ∧
        after = shotsFrom shot.time later := by
      intro before h
      obtain ⟨earlier, later, rfl, hafter⟩ := ih h
      exact ⟨_ :: earlier, later, rfl, hafter⟩
    cases effect with
    | writeImage path image =>
      cases before with
      | nil =>
        obtain ⟨rfl, rfl⟩ := List.cons.inj h
        exact ⟨[], rest, rfl, rfl⟩
      | cons first before => exact hrest before (List.cons.inj h).2
    | _ => exact hrest before h

/-- The times of images do not go back if the clock does not. -/
theorem pairwise_time_shotsFrom
    (h : (last :: exchanges.filterMap Exchange.reading?).Pairwise (· ≤ ·)) :
    (last :: (shotsFrom last exchanges).map Shot.time).Pairwise (· ≤ ·) := by
  induction exchanges generalizing last with
  | nil => exact h
  | cons x rest ih =>
    obtain ⟨effect, answer⟩ := x
    cases effect with
    | wallClock =>
      -- From here on images have the time that is read here.
      obtain ⟨hlast, hrest⟩ := List.pairwise_cons.mp h
      have htimes : @List.Pairwise UInt64 (· ≤ ·)
          (answer :: (shotsFrom answer rest).map Shot.time) := ih hrest
      refine List.pairwise_cons.mpr ⟨fun t ht => ?_, htimes.of_cons⟩
      exact UInt64.le_trans (hlast _ (.head _)) (List.rel_of_pairwise_cons htimes ht)
    | writeImage path image =>
      have htimes : (last :: (shotsFrom last rest).map Shot.time).Pairwise (· ≤ ·) := ih h
      exact List.pairwise_cons.mpr ⟨fun t ht => by
        rcases List.mem_cons.mp ht with rfl | ht
        · exact UInt64.le_refl _
        · exact List.rel_of_pairwise_cons htimes ht, htimes⟩
    | _ => exact ih h

/-- If the clock does not go back and the next image has another time, all later ones have. -/
theorem time_ne_of_next {shot : Shot} {after : List Shot}
    (h : ((shot :: after).map Shot.time).Pairwise (· ≤ ·))
    (hnext : ∀ next ∈ after.head?, next.time ≠ shot.time) :
    ∀ later ∈ after, later.time ≠ shot.time := by
  cases after with
  | nil => exact List.forall_mem_nil _
  | cons next after =>
    obtain ⟨hshot, hafter⟩ := List.pairwise_cons.mp h
    have hlt : shot.time < next.time :=
      UInt64.lt_of_le_of_ne (hshot _ (.head _)) (hnext next rfl).symm
    refine List.forall_mem_cons.mpr ⟨hnext next rfl, fun later hlater => ?_⟩
    have hle : next.time ≤ later.time :=
      List.rel_of_pairwise_cons hafter (List.mem_map_of_mem hlater)
    exact (UInt64.ne_of_lt (UInt64.lt_of_lt_of_le hlt hle)).symm

/-! ### The disk -/

/-- The bytes at each path, if there is a file. -/
def Disk := String → Option (List UInt8)

namespace Disk

/-- The disk goes on by one exchange. A file that does not take an image may be left with anything
in it; nothing else changes, neither at other paths nor by exchanges that write no image. -/
inductive Goes : Disk → Exchange → Disk → Prop
  | written (disk : Disk) (path : String) (image : List UInt8) :
      Goes disk ⟨.writeImage path image, .ok ()⟩ (Function.update disk path (some image))
  | refused {disk disk' : Disk} {path : String} (image : List UInt8) (e : FileError)
      (h : ∀ other, other ≠ path → disk' other = disk other) :
      Goes disk ⟨.writeImage path image, .error e⟩ disk'
  | unchanged (disk : Disk) {x : Exchange} (h : ∀ last, x.shot? last = none) : Goes disk x disk

variable {start disk final : Disk}

/-- An exchange leaves the paths alone that it does not write an image to. -/
theorem Goes.eq_of_ne {x : Exchange} (h : Goes disk x final)
    (hne : ∀ shot ∈ x.shot? last, shot.path ≠ path) : final path = disk path := by
  cases h with
  | written image_path image => exact Function.update_of_ne (hne _ rfl).symm _ _
  | refused image e h => exact h path (hne _ rfl).symm
  | unchanged _ => rfl

/-- What stands at a path stays there if no image is written to it. -/
theorem kept_of_shots (h : Steps Goes disk exchanges final)
    (hne : ∀ shot ∈ shotsFrom last exchanges, shot.path ≠ path) : final path = disk path := by
  induction h generalizing last with
  | nil => rfl
  | @cons _ middle _ x rest hx _ ih =>
    obtain ⟨hfirst, hrest⟩ := List.forall_mem_append.mp hne
    rw [ih hrest, hx.eq_of_ne fun shot hshot => hfirst shot (Option.mem_toList.mpr hshot)]

/-- The file of an image that was written has it in the end, if no later image has its path. -/
theorem final_of_written {before after : List Shot} {shot : Shot}
    (h : Steps Goes start exchanges final)
    (hshots : shotsFrom last exchanges = before ++ shot :: after)
    (hwritten : shot.isWritten = true) (hne : ∀ later ∈ after, later.path ≠ shot.path) :
    final shot.path = some shot.image := by
  -- Cut at the exchange that writes the image: what comes before does not count.
  obtain ⟨earlier, later, rfl, rfl⟩ := exists_of_shotsFrom_eq hshots
  obtain ⟨disk, -, hlater⟩ := steps_append_iff.mp h
  obtain ⟨disk', hwrite, hlater⟩ := steps_cons_iff.mp hlater
  rw [kept_of_shots hlater hne]
  obtain ⟨path, time, image, outcome⟩ := shot
  cases hwrite with
  | written => exact Function.update_self _ _ _
  | refused => cases hwritten
  | unchanged h => cases h time

/-- The disk after an exchange, if an image that no file takes leaves nothing. -/
def take (disk : Disk) : Exchange → Disk
  | ⟨.writeImage path image, .ok ()⟩ => Function.update disk path (some image)
  | _ => disk

/-- A disk can always take what is written to it. -/
private theorem goes_take (disk : Disk) (x : Exchange) : Goes disk x (disk.take x) := by
  obtain ⟨effect, answer⟩ := x
  cases effect with
  | writeImage path image =>
    cases answer with
    | ok _ => exact .written disk path image
    | error e => exact .refused image e fun _ _ => rfl
  | _ => exact .unchanged disk fun _ => rfl

/-- There is a disk for any exchanges. -/
theorem steps_foldl_take (disk : Disk) (exchanges : List Exchange) :
    Steps Goes disk exchanges (exchanges.foldl take disk) := by
  induction exchanges generalizing disk with
  | nil => exact .nil disk
  | cons x rest ih => exact .cons (goes_take disk x) (ih _)

end Disk

/-! ### Steps -/

/-- The path that a step reports for a screenshot. -/
def LogEntry.imagePath? : LogEntry → Option String
  | ⟨.screenshot, .ok (.str path)⟩ => some path
  | _ => none

namespace Step

variable {config : InterpreterConfig} {outcome : Except ActionError Json}

/-- A screenshot fails with the page, or its image is written into the file of the time read. -/
theorem comesTo_screenshot (hdir : config.screenshotDir = some directory)
    (h : ComesTo (execute config .screenshot).run exchanges outcome) :
    (∃ e, exchanges = [⟨.page .screenshot, .error e⟩] ∧ outcome = .error (.page e)) ∨
      ∃ (image : List UInt8) (now : UInt64) (written : Except FileError Unit),
        exchanges = [⟨.page .screenshot, .ok image⟩, ⟨.wallClock, now⟩,
          ⟨.writeImage (imagePath directory now) image, written⟩] ∧
        outcome =
          (written.mapError ActionError.io).map fun _ => Json.str (imagePath directory now) := by
  change ComesTo (screenshot config).run exchanges outcome at h
  -- With the settings taken apart the program shows which way it goes after the page's answer.
  obtain ⟨_, _, _, _, _, _⟩ := config
  obtain rfl : _ = some directory := hdir
  rw [screenshot, run_bind] at h
  obtain ⟨answer, _, rfl, hanswer⟩ := comesTo_ask_iff.mp h
  cases answer with
  | error e =>
    obtain ⟨rfl, rfl⟩ := comesTo_done_iff.mp hanswer
    exact .inl ⟨e, rfl, rfl⟩
  | ok image =>
    obtain ⟨now, _, rfl, hnow⟩ := comesTo_ask_iff.mp hanswer
    obtain ⟨written, _, rfl, hwritten⟩ := comesTo_ask_iff.mp hnow
    refine .inr ⟨image, now, written, ?_⟩
    cases written with
    | error e =>
      obtain ⟨rfl, rfl⟩ := comesTo_done_iff.mp hwritten
      exact ⟨rfl, rfl⟩
    | ok _ =>
      obtain ⟨rfl, rfl⟩ := comesTo_done_iff.mp hwritten
      exact ⟨rfl, rfl⟩

end Step

namespace Interpreter

variable {config : InterpreterConfig} {command : Command} {commands done : List Command}
  {outcome : Except ActionError Json} {log others : RunLog} {status : RunState}

/-- Some exchanges account for the screenshots of a log: every image that the page gives is to be
written, in that order; the log reports the files that took their images; and a file is named for
the time read last before. -/
structure Accounts (directory : String) (exchanges : List Exchange) (log : RunLog) : Prop where
  captured : ∀ last,
    exchanges.filterMap Exchange.captured? = (shotsFrom last exchanges).map Shot.image
  reported : ∀ last, log.filterMap LogEntry.imagePath? =
    ((shotsFrom last exchanges).filter Shot.isWritten).map Shot.path
  named : ∀ last, ∀ shot ∈ shotsFrom last exchanges, shot.path = imagePath directory shot.time

/-- Two logs account for their exchanges one after the other. -/
theorem Accounts.append (h : Accounts directory exchanges log)
    (hmore : Accounts directory more others) :
    Accounts directory (exchanges ++ more) (log ++ others) where
  captured last := by
    rw [List.filterMap_append, shotsFrom_append, List.map_append, ← h.captured, ← hmore.captured]
  reported last := by
    rw [List.filterMap_append, shotsFrom_append, List.filter_append, List.map_append, ← h.reported,
      ← hmore.reported]
  named last := by
    rw [shotsFrom_append]
    exact List.forall_mem_append.mpr ⟨h.named _, hmore.named _⟩

/-- Exchanges without images account for entries that report none. -/
theorem accounts_of_not_isOfImage (h : ∀ x ∈ exchanges, x.effect.isOfImage = false)
    (hlog : ∀ entry ∈ log, entry.imagePath? = none) : Accounts directory exchanges log where
  captured last := by
    rw [shotsFrom_eq_nil h]
    exact List.filterMap_eq_nil_iff.mpr fun x hx => Exchange.captured?_eq_none (h x hx)
  reported last := by
    rw [shotsFrom_eq_nil h]
    exact List.filterMap_eq_nil_iff.mpr hlog
  named last := by
    rw [shotsFrom_eq_nil h]
    exact List.forall_mem_nil _

/-- The exchanges of a step account for its entry. -/
theorem accounts_of_comesTo (hdir : config.screenshotDir = some directory)
    (h : ComesTo (Step.execute config command).run exchanges outcome) :
    Accounts directory exchanges [⟨command, resultOf outcome⟩] := by
  cases htakes : command.takesImage with
  | false =>
    refine accounts_of_not_isOfImage (h.only (Step.execute_only_not_isOfImage config htakes)) ?_
    refine List.forall_mem_singleton.mpr ?_
    cases command <;> first | rfl | cases htakes
  | true =>
    obtain rfl : command = .screenshot := by cases command <;> first | rfl | cases htakes
    rcases Step.comesTo_screenshot hdir h with ⟨e, rfl, rfl⟩ | ⟨image, now, written, rfl, rfl⟩
    · exact ⟨fun _ => rfl, fun _ => rfl, fun _ => List.forall_mem_nil _⟩
    · refine ⟨fun _ => rfl, fun _ => ?_, fun _ => List.forall_mem_singleton.mpr rfl⟩
      cases written <;> rfl

/-- The log of the commands that were carried out accounts for their exchanges. -/
theorem CarriesOut.accounts (hdir : config.screenshotDir = some directory)
    (h : CarriesOut config done exchanges log) : Accounts directory exchanges log := by
  induction h with
  | nil => exact accounts_of_not_isOfImage (by simp) (by simp)
  | cons hstep _ _ ih => exact (accounts_of_comesTo hdir hstep).append ih

/-- The exchanges of the steps of a run account for its log. -/
theorem accounts_of_runSteps (hdir : config.screenshotDir = some directory)
    (h : ComesTo (runSteps config commands) exchanges (log, status)) :
    Accounts directory exchanges log := by
  rcases comesTo_runSteps h with ⟨hcarries, -⟩ |
    ⟨done, command, rest, first, last, entries, entry, -, rfl, hcarries, hends, rfl, -⟩
  · exact hcarries.accounts hdir
  · obtain ⟨outcome, hstep, -, rfl⟩ := hends
    exact (hcarries.accounts hdir).append (accounts_of_comesTo hdir hstep)

/-! ### Runs -/

/-- A run of an interpreter, with what is seen of it. -/
structure Played (config : InterpreterConfig) where
  /-- The commands it was given. -/
  commands : List Command
  /-- What it asked, and the answers. -/
  exchanges : List Exchange
  /-- What it reported. -/
  report : RunReport
  /-- The run comes to the report by the exchanges. -/
  comesTo : ComesTo (run config commands) exchanges report

/-- What surrounds the steps of a run is not about images. -/
theorem Played.accounts (hdir : config.screenshotDir = some directory) (r : Played config) :
    Accounts directory r.exchanges r.report.log := by
  obtain ⟨commands, exchanges, report, h⟩ := r
  obtain ⟨opening, installed, steps, log, status, flushed, rfl, hinstall, hsteps, rfl⟩ :=
    comesTo_run h
  -- Neither what comes before the steps nor what comes after them is about images.
  have hinstalled : ∀ x ∈ opening, x.effect.isOfImage = false :=
    hinstall.only (install_only (P := (·.isOfImage = false)) rfl rfl rfl)
  have hopening : Accounts directory (⟨.enter .running, ()⟩ :: opening) [] :=
    accounts_of_not_isOfImage (List.forall_mem_cons.mpr ⟨rfl, hinstalled⟩) (by simp)
  have hclosing : Accounts directory [⟨.flush log, flushed⟩, ⟨.enter status, ()⟩] [] :=
    accounts_of_not_isOfImage (by simp [Effect.isOfImage]) (by simp)
  simpa using (hopening.append (accounts_of_runSteps hdir hsteps)).append hclosing

/-- What is seen of some runs, one after the other. -/
def seen (runs : List (Played config)) : List Exchange :=
  runs.flatMap Played.exchanges

/-- The paths that some runs report for screenshots. -/
def reportedPaths (runs : List (Played config)) : List String :=
  (runs.flatMap fun r => r.report.log).filterMap LogEntry.imagePath?

/-- The logs of several runs account for what all of them have exchanged. -/
theorem accounts_of_played (hdir : config.screenshotDir = some directory)
    (runs : List (Played config)) :
    Accounts directory (seen runs) (runs.flatMap fun r => r.report.log) := by
  induction runs with
  | nil => exact accounts_of_not_isOfImage (by simp [seen]) (by simp)
  | cons r runs ih => exact (r.accounts hdir).append ih

/-- Any number of runs write screenshots into one directory, while the clock does not go back. Every
image that the page gives is then to be written, in order, into the file of the time that was read
for it, and the paths reported are those of the images that were written. Two images share a path
exactly if their times are the same. An image that was written is in its file after the runs, unless
the next one has the same time. -/
theorem screenshots_kept {start final : Disk} (hdir : config.screenshotDir = some directory)
    (runs : List (Played config))
    (hclock : ((seen runs).filterMap Exchange.reading?).Pairwise (· ≤ ·))
    (hdisk : Steps Disk.Goes start (seen runs) final) :
    (seen runs).filterMap Exchange.captured? = (shotsFrom 0 (seen runs)).map Shot.image ∧
      reportedPaths runs = ((shotsFrom 0 (seen runs)).filter Shot.isWritten).map Shot.path ∧
      (∀ shot ∈ shotsFrom 0 (seen runs), shot.path = imagePath directory shot.time) ∧
      (∀ shot ∈ shotsFrom 0 (seen runs), ∀ other ∈ shotsFrom 0 (seen runs),
        shot.path = other.path ↔ shot.time = other.time) ∧
      ∀ before shot after, shotsFrom 0 (seen runs) = before ++ shot :: after →
        shot.isWritten = true → (∀ next ∈ after.head?, next.time ≠ shot.time) →
        final shot.path = some shot.image := by
  obtain ⟨hcaptured, hreported, hnamed⟩ := accounts_of_played hdir runs
  have hpath : ∀ shot ∈ shotsFrom 0 (seen runs), ∀ other ∈ shotsFrom 0 (seen runs),
      shot.path = other.path ↔ shot.time = other.time := fun shot hshot other hother => by
    rw [hnamed 0 shot hshot, hnamed 0 other hother, imagePath_inj]
  refine ⟨hcaptured 0, hreported 0, hnamed 0, hpath, fun before shot after heq hwritten hnext => ?_⟩
  -- No later image has the path, since the clock has moved on by the next one and does not go back.
  refine Disk.final_of_written hdisk heq hwritten fun later hlater => ?_
  have hmem : ∀ s ∈ shot :: after, s ∈ shotsFrom 0 (seen runs) := fun s hs =>
    heq ▸ List.mem_append_right before hs
  rw [ne_eq, hpath later (hmem _ (.tail _ hlater)) shot (hmem _ (.head _))]
  have htimes : ((shotsFrom 0 (seen runs)).map Shot.time).Pairwise (· ≤ ·) :=
    (pairwise_time_shotsFrom (List.pairwise_cons.mpr ⟨fun _ _ => UInt64.zero_le, hclock⟩)).of_cons
  rw [heq, List.map_append, List.pairwise_append] at htimes
  exact time_ne_of_next htimes.2.1 hnext later hlater

/-- What is seen of a screenshot that is taken at a time and written. -/
def shotExchanges (directory : String) (shot : UInt64 × List UInt8) : List Exchange :=
  [⟨.page .screenshot, .ok shot.2⟩, ⟨.wallClock, shot.1⟩,
    ⟨.writeImage (imagePath directory shot.1) shot.2, .ok ()⟩]

/-- What is noted of such a screenshot. -/
def shotEntry (directory : String) (shot : UInt64 × List UInt8) : LogEntry :=
  ⟨.screenshot, .ok (.str (imagePath directory shot.1))⟩

/-- Screenshots can be taken at any readings of the clock. -/
private theorem carriesOut_shots (hdir : config.screenshotDir = some directory)
    (shots : List (UInt64 × List UInt8)) :
    CarriesOut config (shots.map fun _ => .screenshot) (shots.flatMap (shotExchanges directory))
      (shots.map (shotEntry directory)) := by
  induction shots with
  | nil => exact .nil
  | cons shot shots ih =>
    have hstep : ComesTo (Step.execute config .screenshot).run (shotExchanges directory shot)
        (.ok (.str (imagePath directory shot.1))) := by
      obtain ⟨_, _, _, _, _, _⟩ := config
      obtain rfl : _ = some directory := hdir
      exact .ask (.ask (.ask (.done _)))
    exact .cons hstep rfl ih

/-- A run that takes some screenshots, each at a time, on a page whose listeners are installed. -/
def shooting (hdir : config.screenshotDir = some directory) (shots : List (UInt64 × List UInt8)) :
    Played config where
  commands := shots.map fun _ => .screenshot
  exchanges := ⟨.enter .running, ()⟩ :: ([⟨.claimInstall, false⟩] ++
    (shots.flatMap (shotExchanges directory) ++
      [⟨.flush (shots.map (shotEntry directory)), .ok ()⟩, ⟨.enter .completed, ()⟩]))
  report :=
    ⟨.completed, shots.map (shotEntry directory), .ofLog _ (shots.map (shotEntry directory))⟩
  comesTo := by
    have hinstall : ComesTo install [⟨.claimInstall, false⟩] (.ok ()) := .ask (.done _)
    have hnone : ComesTo (runSteps config []) [] ([], .completed) := .done _
    have hsteps := (carriesOut_shots hdir shots).comesTo hnone
    rw [List.append_nil, List.append_nil, List.append_nil] at hsteps
    exact comesTo_run_of_steps hinstall hsteps _

/-- An interpreter that writes screenshots, and else is as it is by itself. -/
def shootingConfig : InterpreterConfig :=
  { InterpreterConfig.standard with screenshotDir := some "shots" }

/-- The settings of the sample have a directory. -/
theorem screenshotDir_shootingConfig : shootingConfig.screenshotDir = some "shots" := rfl

/-- The disk after some runs, if there was nothing before. -/
def diskAfter (runs : List (Played config)) : Disk :=
  (seen runs).foldl Disk.take fun _ => none

/-- A screenshot in each of two runs, at different times. -/
def twoRuns : List (Played shootingConfig) :=
  [shooting screenshotDir_shootingConfig [(5, [1])],
    shooting screenshotDir_shootingConfig [(6, [2])]]

/-- Both files have their images. -/
theorem screenshots_kept_two_runs :
    shootingConfig.screenshotDir = some "shots" ∧
      ((seen twoRuns).filterMap Exchange.reading?).Pairwise (· ≤ ·) ∧
      Steps Disk.Goes (fun _ => none) (seen twoRuns) (diskAfter twoRuns) ∧
      reportedPaths twoRuns = [imagePath "shots" 5, imagePath "shots" 6] ∧
      diskAfter twoRuns (imagePath "shots" 5) = some [1] ∧
      diskAfter twoRuns (imagePath "shots" 6) = some [2] := by
  have hclock : ((seen twoRuns).filterMap Exchange.reading?).Pairwise (· ≤ ·) := by
    change List.Pairwise (· ≤ ·) [(5 : UInt64), 6]
    decide
  have hdisk := Disk.steps_foldl_take (fun _ => none) (seen twoRuns)
  obtain ⟨-, hreported, -, -, hkept⟩ := screenshots_kept rfl twoRuns hclock hdisk
  exact ⟨rfl, hclock, hdisk, hreported,
    hkept [] ⟨imagePath "shots" 5, 5, [1], .ok ()⟩ [⟨imagePath "shots" 6, 6, [2], .ok ()⟩] rfl rfl
      (by simp),
    hkept [⟨imagePath "shots" 5, 5, [1], .ok ()⟩] ⟨imagePath "shots" 6, 6, [2], .ok ()⟩ [] rfl rfl
      (by simp)⟩

/-- Two screenshots of one run, within one millisecond. -/
def sameMillisecond : List (Played shootingConfig) :=
  [shooting screenshotDir_shootingConfig [(5, [1]), (5, [2])]]

/-- Both steps report the same path, and the first image is lost. -/
theorem screenshot_overwritten :
    shootingConfig.screenshotDir = some "shots" ∧
      ((seen sameMillisecond).filterMap Exchange.reading?).Pairwise (· ≤ ·) ∧
      Steps Disk.Goes (fun _ => none) (seen sameMillisecond) (diskAfter sameMillisecond) ∧
      (seen sameMillisecond).filterMap Exchange.captured? = [[1], [2]] ∧
      reportedPaths sameMillisecond = [imagePath "shots" 5, imagePath "shots" 5] ∧
      diskAfter sameMillisecond (imagePath "shots" 5) = some [2] := by
  have hclock : ((seen sameMillisecond).filterMap Exchange.reading?).Pairwise (· ≤ ·) := by
    change List.Pairwise (· ≤ ·) [(5 : UInt64), 5]
    decide
  exact ⟨rfl, hclock, Disk.steps_foldl_take _ _, rfl, rfl, Function.update_self ..⟩

end Interpreter

end PageScript
