import PageScript.Store.Basic

/-!
# Shared file stores

Calls on one file store that are under way at the same time. A call takes the lock, reads the file, makes the
directory and writes the file if it stores something, and releases the lock; between any two of these steps other
calls may take theirs. The system may refuse a call one of its steps, which then is the last one before the lock is
released.
-/

namespace PageScript

/-- What a call asks of a store. -/
inductive StoreRequest where
  | get (key : String)
  | set (key : String) (value : Json)

/-- The step that the system refuses a call, and why. -/
inductive StoreFault where
  | read (error : FileError)
  /-- Making the directory. -/
  | prepare (error : FileError)
  /-- Writing, which may have begun and left something else in the file. -/
  | write (error : FileError) (left : Option FileContent)

/-- A call on a store. -/
structure StoreCall where
  /-- What it asks. -/
  request : StoreRequest
  /-- What it is refused, if anything. -/
  fault : Option StoreFault

/-- The answer to a call. -/
inductive StoreAnswer where
  | found (value : Option Json)
  | stored
  | failed (error : StoreError)

/-- How far a call has come. -/
inductive StoreStage where
  /-- It waits for the lock. -/
  | waiting
  /-- It holds the lock. -/
  | holding
  /-- It has read the file, and put a value under a key of what it has read. -/
  | loaded (entries : Entries)
  /-- It has made the directory for these values. -/
  | prepared (entries : Entries)
  /-- It has its answer and still holds the lock. -/
  | answered (answer : StoreAnswer)
  /-- It has released the lock. -/
  | done (answer : StoreAnswer)

/-- A call on a store that is under way. -/
structure StoreTask where
  /-- The call. -/
  call : StoreCall
  /-- How far it has come. -/
  stage : StoreStage

/-- A file store and the calls on it. -/
structure SharedStore where
  /-- The file. -/
  content : FileContent
  /-- The place of the call that holds the lock. -/
  holder : Option Nat
  /-- The places of the calls that have taken the lock, in that order. -/
  taken : List Nat
  /-- The calls, each at its place. -/
  tasks : List StoreTask

namespace StoreCall

/-- Reads the file. -/
def read (content : FileContent) (c : StoreCall) : Except StoreError Entries :=
  match c.fault with
  | some (.read e) => .error (.io e)
  | _ => Store.readFile content

/-- Makes the directory. -/
def prepare (c : StoreCall) : Except StoreError Unit :=
  match c.fault with
  | some (.prepare e) => .error (.io e)
  | _ => .ok ()

/-- Writes values, and answers. -/
def write (entries : Entries) (content : FileContent) (c : StoreCall) : StoreAnswer × FileContent :=
  match c.fault with
  | some (.write e left) => (.failed (.io e), left.getD content)
  | _ =>
    match Store.writeFile entries content with
    | .ok content => (.stored, content)
    | .error e => (.failed e, content)

/-- What a call answers when it is the only one, and the file after it. -/
def answer (content : FileContent) (c : StoreCall) : StoreAnswer × FileContent :=
  match c.read content with
  | .error e => (.failed e, content)
  | .ok entries =>
    match c.request with
    | .get key => (.found (Json.lookup key entries), content)
    | .set key value =>
      match c.prepare with
      | .error e => (.failed e, content)
      | .ok () => c.write (Json.insertField key value entries) content

/-- What calls answer when each begins after the one before it has ended, and the file after them. -/
def answerAll (content : FileContent) : List StoreCall → List StoreAnswer × FileContent
  | [] => ([], content)
  | call :: rest =>
    let (answer, content) := call.answer content
    let (answers, content) := answerAll content rest
    (answer :: answers, content)

end StoreCall

namespace StoreTask

/-- A step of a call that holds the lock, and the file after it. Releasing the lock is no such step. -/
def work? (content : FileContent) (t : StoreTask) : Option (StoreStage × FileContent) :=
  match t.stage with
  | .holding =>
    match t.call.read content, t.call.request with
    | .error e, _ => some (.answered (.failed e), content)
    | .ok entries, .get key => some (.answered (.found (Json.lookup key entries)), content)
    | .ok entries, .set key value => some (.loaded (Json.insertField key value entries), content)
  | .loaded entries =>
    match t.call.prepare with
    | .error e => some (.answered (.failed e), content)
    | .ok () => some (.prepared entries, content)
  | .prepared entries =>
    let (answer, content) := t.call.write entries content
    some (.answered answer, content)
  | .waiting => none
  | .answered _ => none
  | .done _ => none

end StoreTask

namespace SharedStore

/-- A file and calls that wait for the lock. -/
def new (content : FileContent) (calls : List StoreCall) : SharedStore :=
  ⟨content, none, [], calls.map fun call => ⟨call, .waiting⟩⟩

/-- The call at a place has come to a stage. -/
def moveTo (s : SharedStore) (place : Nat) (t : StoreTask) (stage : StoreStage) : SharedStore :=
  { s with tasks := s.tasks.set place { t with stage := stage } }

/-- The next step of the call at a place, if it can take one. -/
def step? (s : SharedStore) (place : Nat) : Option SharedStore :=
  match s.tasks[place]? with
  | none => none
  | some t =>
    match t.stage with
    | .waiting =>
      if s.holder.isNone then
        some { s.moveTo place t .holding with holder := some place, taken := s.taken ++ [place] }
      else none
    | .answered answer => some { s.moveTo place t (.done answer) with holder := none }
    | .done _ => none
    | _ => (t.work? s.content).map fun worked => { s.moveTo place t worked.1 with content := worked.2 }

/-- The calls at some places take a step each, one after another. -/
def run? (s : SharedStore) : List Nat → Option SharedStore
  | [] => some s
  | place :: rest => (s.step? place).bind fun s => s.run? rest

/-- The answer of the call at a place, once it is done. -/
def answer? (s : SharedStore) (place : Nat) : Option StoreAnswer :=
  match (s.tasks[place]?).map StoreTask.stage with
  | some (.done answer) => some answer
  | _ => none

/-- Every call is done. -/
def isDone (s : SharedStore) : Bool :=
  s.tasks.all fun t => match t.stage with
    | .done _ => true
    | _ => false

end SharedStore

end PageScript
