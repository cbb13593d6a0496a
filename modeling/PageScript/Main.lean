import PageScript.CommandLine.Basic
import PageScript.Rehearsal.Ensemble
import PageScript.Rehearsal.RemotePage
import PageScript.Socket.Stream
import PageScript.Text.Uuid
import Std.Internal.UV.TCP
import Std.Time

/-!
# The program

The outer layer of the command line: it reads and writes files, prints, and keeps the world of a page that is
elsewhere in step with the clock and with the sockets of those who connect. What happens in that world is decided by
the same rules as in a rehearsal.
-/

namespace PageScript.Live

open Std.Internal.UV

/-- Shows something at once. -/
def present (s : Shown) : IO Unit := do
  IO.print (CommandLine.outText s)
  IO.eprint (CommandLine.errText s)
  (← IO.getStdout).flush

/-- The code of the system for a file where a directory should be. -/
def notDirectoryCode : UInt32 := 20

/-- What stands at a path. -/
def look (path : String) : IO FileContent := do
  try
    return .ofBytes (← IO.FS.readBinFile path)
  catch
    | .noFileOrDirectory .. => return .absent
    | .inappropriateType _ code _ => return if code = notDirectoryCode then .blocked else .directory
    | e => throw e

/-- What stands at some paths. -/
def lookAll (paths : List String) : IO Files :=
  paths.mapM fun path => return (path, ← look path)

/-- Makes the directories that a path needs. -/
def makeParent (path : String) : IO Unit :=
  match parentPath? path with
  | some parent => IO.FS.createDirAll parent
  | none => pure ()

/-- Makes a file hold a text. -/
def keep (path text : String) : IO Unit := do
  makeParent path
  IO.FS.writeFile path text

/-- Someone who has connected. -/
structure Client where
  /-- The socket. -/
  socket : TCP.Socket
  /-- The number of the connection. -/
  peer : Nat
  /-- What has come in. -/
  stream : Socket.Stream
  /-- The bytes to come. -/
  reading : IO.Promise (Except IO.Error (Option ByteArray))

open Rehearsal hiding Task

/-- A page that is elsewhere, and what surrounds it. -/
structure Page where
  /-- The socket that is listened on. -/
  server : TCP.Socket
  /-- When the world began. -/
  start : Nat
  /-- Those who have connected. -/
  clients : List Client
  /-- The world. -/
  world : World RemotePage
  /-- The file of the store. -/
  store : String
  /-- The log file. -/
  log : Option String

/-- The most bytes that are read at once. -/
def chunk : UInt64 := 65536

/-- How many milliseconds pass between two looks at the sockets. -/
def interval : UInt32 := 2

/-- A connection of the page takes a step. Gives what it sends. -/
def Page.turn (p : Page) (peer : Nat) (step : Connection → Turn) : Page × List WireMessage :=
  let (remote, sent) := p.world.page.remote.proceed peer step
  ({ p with world := { p.world with page := { p.world.page with remote := remote } } }, sent)

/-- Sends bytes. Gives whether they could be handed over. -/
def Client.send (c : Client) (bytes : ByteArray) : IO Bool := do
  try
    let _ ← c.socket.send #[bytes]
    return true
  catch _ => return false

/-- Accepts those who have come. -/
partial def Page.accept (p : Page) : IO Page := do
  match ← p.server.tryAccept with
  | .ok (some socket) =>
    let peer := p.world.page.remote.peers
    let client : Client := ⟨socket, peer, .new, ← socket.recv? chunk⟩
    let page := { p.world.page with remote := p.world.page.remote.accept }
    accept { p with clients := p.clients ++ [client], world := { p.world with page := page } }
  | _ => return p

/-- Takes in what the bytes of a client have brought. -/
def Page.takeIn (p : Page) (c : Client) : Socket.StreamEvent → IO Page
  | .greeting understood => return (p.turn c.peer fun connection => connection.greet understood).1
  | .incoming incoming => return (p.turn c.peer fun connection => connection.read incoming).1
  | .answer bytes => do
    let _ ← c.send bytes
    return p

/-- Nothing more can be read from a client. -/
def Page.lose (p : Page) (c : Client) (incoming : Incoming) : Page :=
  (p.turn c.peer fun connection => if connection.greeted then connection.read incoming else connection.greet false).1

/-- Reads what a client has sent. -/
def Page.hear (p : Page) (c : Client) : IO (Page × Client) := do
  if !(← c.reading.isResolved) then return (p, c)
  match c.reading.result?.get with
  | some (.ok (some bytes)) =>
    let (stream, events) := c.stream.feed bytes
    let p ← events.foldlM (fun p event => p.takeIn c event) p
    return (p, { c with stream := stream, reading := ← c.socket.recv? chunk })
  | some (.ok none) => return (p.lose c .ended, c)
  | _ => return (p.lose c .failure, c)

/-- Sends a client what is kept for it. -/
def Page.forward (p : Page) (c : Client) : IO Page := do
  let (remote, messages) := p.world.page.remote.forwardAll c.peer
  let p := { p with world := { p.world with page := { p.world.page with remote := remote } } }
  if ← messages.allM fun m => c.send (Socket.Stream.encode m) then return p
  else return (p.turn c.peer fun connection => connection.read .failure).1

/-- Lets go of the clients whose connections are gone. -/
def Page.part (p : Page) : IO Page := do
  let attached (c : Client) : Bool := p.world.page.remote.connections.any fun connection => connection.peer = c.peer
  for c in p.clients do
    if !attached c then
      try
        let _ ← c.socket.shutdown
      catch _ => pure ()
  return { p with clients := p.clients.filter attached }

/-- Adds a run to the log file. -/
def Page.addLog (p : Page) (run : RunLog) : IO Unit :=
  match p.log with
  | none => pure ()
  | some path => do
    try
      makeParent path
      (← IO.FS.Handle.mk path .append).putStr run.lines
    catch _ => pure ()

/-- Writes what the world has kept since it was last written. -/
def Page.write (p : Page) (before : Store) : IO Page := do
  p.world.flushed.forM p.addLog
  for image in p.world.images do
    makeParent image.1
    IO.FS.writeBinFile image.1 ⟨image.2.toArray⟩
  match before, p.world.store with
  | .file (.text old), .file (.text new) => if old ≠ new then keep p.store new
  | _, .file (.text new) => keep p.store new
  | _, _ => pure ()
  return { p with world := { p.world with flushed := [], images := [] } }

/-- The time of the world now. -/
def Page.clock (p : Page) : IO Page := do
  let now ← IO.monoMsNow
  let outside := (← Std.Time.Timestamp.now).toMillisecondsSinceUnixEpoch.val
  return { p with world := { p.world with now := now - p.start, outside := .ofNat outside.toNat } }

/-- The world goes on for an instant. -/
def Page.pulse {ρ : Type} (p : Page) (tasks : List (Rehearsal.Task (Option ρ))) :
    IO (Page × List (Rehearsal.Task (Option ρ))) := do
  let p ← (← p.clock).accept
  let mut page := p
  let mut clients := []
  for c in p.clients do
    let (next, c) ← page.hear c
    page := next
    clients := clients ++ [c]
  let e := (Ensemble.mk page.world tasks).settle
  page := { page with clients := clients, world := e.world }
  for c in clients do
    page ← page.forward c
  page ← page.write p.world.store
  page ← page.part
  return (page, e.tasks)

/-- The world goes on until a program is done. -/
partial def Page.await {ρ : Type} (p : Page) (tasks : List (Rehearsal.Task (Option ρ))) : IO (Page × Option ρ) := do
  let (p, tasks) ← p.pulse tasks
  match (Ensemble.mk p.world tasks).finished with
  | (_, result) :: _ => return (p, result)
  | [] =>
    IO.sleep interval
    await p tasks

/-- Runs commands and shows what they come to. -/
def Page.run (p : Page) (program : Program RunReport) : IO Page := do
  let p := { p with world := { p.world with store := .file (← look p.store) } }
  let (p, report) ← p.await ((Ensemble.mk p.world []).start "" program).tasks
  ((report.map Shown.ofReport).getD []).forM present
  return p

/-- Reads the bytes of a line, up to its line feed or the end of what is typed. -/
partial def readLine (stdin : IO.FS.Stream) (line : List UInt8) : IO (List UInt8) := do
  match (← stdin.read 1).toList with
  | [] => return line.reverse
  | b :: _ => if b = 10 then return (b :: line).reverse else readLine stdin (b :: line)

/-- The world goes on until something has been read. -/
partial def Page.awaitTyped (p : Page) (typed : Task (Except IO.Error (List UInt8))) :
    IO (Page × List UInt8) := do
  if ← IO.hasFinished typed then
    match typed.get with
    | .ok bytes => return (p, bytes)
    | .error e => throw e
  else
    let (p, _) ← p.pulse ([] : List (Rehearsal.Task (Option Unit)))
    IO.sleep interval
    p.awaitTyped typed

/-- A session line by line. Gives why a line is no text, if that ends it. -/
partial def Page.converse (p : Page) (config : InterpreterConfig) : IO (Option Text.Utf8Fault) := do
  present .prompt
  let stdin ← IO.getStdin
  let (p, bytes) ← p.awaitTyped (← IO.asTask (readLine stdin []) .dedicated)
  match TypedLines.ofBytes bytes with
  | ⟨_, some fault⟩ => return some fault
  | ⟨[], none⟩ => return none
  | ⟨line :: _, none⟩ =>
    match TypedLine.of CommandLine.exits line with
    | .skip => p.converse config
    | .exit => return none
    | .invalid e =>
      present (.ofParseError e)
      p.converse config
    | .command command => (← p.run (Interpreter.run config [command])).converse config

/-- Runs a script. Gives why it cannot be run, if it cannot. -/
def Page.runScript (p : Page) (config : InterpreterConfig) (path : String) : IO (Option ScriptFault) := do
  match (← look path).read with
  | .error e => return some (.unreadable e)
  | .ok script =>
    match Interpreter.runScript config script with
    | .error e => return some (.invalid e)
    | .ok program =>
      let _ ← p.run program
      return none

/-- Listens on a port of this machine. -/
def listen (port : UInt16) : IO TCP.Socket := do
  let server ← TCP.Socket.new
  server.bind (.v4 ⟨.ofParts 127 0 0 1, port⟩)
  server.listen 128
  return server

/-- The port that a socket listens on. -/
def portOf (server : TCP.Socket) : IO UInt16 := do
  match ← server.getSockName with
  | .v4 address => return address.port
  | .v6 address => return address.port

/-- Drives a page over a socket. -/
def drive (config : Config) (home : String) (port : UInt16) (script log : Option String) : IO Ending := do
  let server ← try listen port catch e => return ⟨[], some (.port port e.toString)⟩
  present (CommandLine.invitation (toString (← portOf server).toNat))
  let store := config.storage.file home (← IO.getEnv "XDG_DATA_HOME")
  let world := World.new config.observer config.bridge (.file .absent) (RemotePage.new config.remote)
  let bits := (← IO.getRandomBytes 16).toList.foldl (fun n b => n * 256 + b.toNat) 0
  let world := { world with toastIds := fun n => Text.uuid (bits + n) }
  let page : Page := ⟨server, ← IO.monoMsNow, [], world, store, log⟩
  match script with
  | some path => return ⟨[], (← page.runScript config.interpreter path).map (.script path)⟩
  | none =>
    (CommandLine.banner.map Shown.out).forM present
    return ⟨[], (← page.converse config.interpreter).map .session⟩

/-- What a call of the program comes to. What is shown on the way is not shown again. -/
def call (arguments : Arguments) : IO Ending := do
  let home := (← IO.getEnv "HOME").getD ""
  let located ← IO.getEnv "STEPPER_CONFIG"
  let files ← lookAll (arguments.config.toList ++ located.toList ++ Config.searchPaths home)
  match CommandLine.configFor files.look home located arguments.config with
  | .error e => return ⟨[], some e⟩
  | .ok config =>
    match arguments.mode with
    | .verbs => return CommandLine.verbs
    | .check path => return CommandLine.check path (← look path)
    | .remote port script log => drive config home (port.getD config.remote.port) script log

end PageScript.Live

/-- Runs the program with the words of a call. -/
def main (words : List String) : IO UInt32 := do
  match PageScript.Arguments.read? words with
  | none =>
    (PageScript.CommandLine.usage.map PageScript.Shown.err).forM PageScript.Live.present
    return PageScript.CommandLine.misuse
  | some arguments =>
    let ending ← PageScript.Live.call arguments
    ending.all.forM PageScript.Live.present
    return ending.code
