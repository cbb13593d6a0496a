import PageScript.CommandLine.Basic
import PageScript.Rehearsal.Ensemble
import PageScript.Rehearsal.RemotePage

/-!
# Calls of the program

A call of the program in a rehearsal: files and what is typed are given beforehand, and nobody connects to the page.
-/

namespace PageScript.Rehearsal

/-- A call of the program, and what surrounds it. -/
structure Call where
  /-- The words of the call. -/
  words : List String
  /-- The files that are there. -/
  files : Files
  /-- The home directory. -/
  home : String
  /-- The configuration file named by the surroundings. -/
  located : Option String
  /-- What is typed. -/
  stdin : List UInt8

/-- What a call came to. -/
structure Called where
  /-- The code given back. -/
  code : UInt32
  /-- What was shown. -/
  shown : List Shown
  /-- The files afterwards. -/
  files : Files

namespace Call

/-- After so many milliseconds a run is given up. -/
def patience : Nat := 3600000

/-- The port of every rehearsal. -/
def port : String := "<port>"

/-- A call that ends and leaves the files as they are. -/
def ending (files : Files) (e : Ending) : Called :=
  ⟨e.code, e.all, files⟩

/-- Runs a script. -/
def runScript (config : InterpreterConfig) (path : String) (content : FileContent) (w : World RemotePage) :
    World RemotePage × Ending :=
  match content.read with
  | .error e => (w, ⟨[], some (.script path (.unreadable e))⟩)
  | .ok script =>
    match Interpreter.runScript config script with
    | .error e => (w, ⟨[], some (.script path (.invalid e))⟩)
    | .ok program =>
      let (w, report) := Ensemble.runOne w patience program
      (w, ⟨(report.map Shown.ofReport).getD [], none⟩)

/-- Runs the command of a line that was typed. -/
def submit (config : InterpreterConfig) (w : World RemotePage) (command : Command) :
    World RemotePage × Option (List Shown) :=
  let (w, report) := Ensemble.runOne w patience (Interpreter.run config [command])
  (w, report.map Shown.ofReport)

/-- Runs what is typed, line by line. -/
def runTyped (config : InterpreterConfig) (stdin : List UInt8) (w : World RemotePage) : World RemotePage × Ending :=
  let typed := TypedLines.ofBytes stdin
  let start : Session (World RemotePage) := ⟨w, CommandLine.banner.map .out, none⟩
  let (session, _) := converse CommandLine.exits (submit config) typed.fault start typed.lines
  (session.state, ⟨session.shown, session.fault.map .session⟩)

/-- The log file after some runs. A run that cannot be added to it is not missed. -/
def logged (runs : List RunLog) (content : FileContent) : FileContent :=
  runs.foldl (fun content run => (run.appendTo content).toOption.getD content) content

/-- Drives a page to which nobody connects. -/
def drive (c : Call) (config : Config) (script log : Option String) : Called :=
  let storeFile := config.storage.file c.home none
  let store := c.files.look storeFile
  let w := World.new config.observer config.bridge (.file store) (RemotePage.new config.remote)
  let (w, e) := match script with
    | some path => runScript config.interpreter path (c.files.look path) w
    | none => runTyped config.interpreter c.stdin w
  let files := match w.store with
    | .file content => if content.isPresent then c.files.put storeFile content else c.files
    | .memory _ => c.files
  let files := match log with
    | some path => if w.flushed.isEmpty then files else files.put path (logged w.flushed (files.look path))
    | none => files
  ending files { e with shown := CommandLine.invitation port :: e.shown }

/-- What the call comes to. -/
def run (c : Call) : Called :=
  match Arguments.read? c.words with
  | none => ⟨CommandLine.misuse, CommandLine.usage.map .err, c.files⟩
  | some arguments =>
    match CommandLine.configFor c.files.look c.home c.located arguments.config with
    | .error e => ending c.files ⟨[], some e⟩
    | .ok config =>
      match arguments.mode with
      | .verbs => ending c.files CommandLine.verbs
      | .check path => ending c.files (CommandLine.check path (c.files.look path))
      | .remote _ script log => c.drive config script log

end Call

end PageScript.Rehearsal
