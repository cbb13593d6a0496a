import PageScript.File
import PageScript.Json.Printer
import PageScript.Record.Text
import PageScript.Recipe

/-!
# Stores

A store keeps values under keys, in memory or in a file that holds one JSON object. A file that is absent or blank
counts as an empty object; anything else that is no JSON object is an error, and is left alone.
-/

namespace PageScript

open Record

/-- Values under keys, in ascending order of the keys. -/
abbrev Entries := List (String × Json)

/-- Why a store did not answer. -/
inductive StoreError where
  | io (error : FileError)
  | format (text : String)
deriving DecidableEq, Repr

/-- The wording of a store error. -/
def StoreError.message : StoreError → String
  | .io error => "Storage I/O failed: " ++ error.message
  | .format text => "Storage document is invalid: " ++ text

/-- A store. -/
inductive Store where
  | memory (entries : Entries)
  | file (content : FileContent)

namespace Store

/-- Reads an object as values under keys. -/
def entriesDecoder : Decoder Entries
  | _, .obj fields => .ok (Json.sortFields (Json.canonicalFields fields))
  | _, j => refuse .mapping j

/-- The text holds nothing but white space. -/
def isBlankText (s : String) : Bool :=
  s.toList.all Text.isBlank

/-- The values that a file holds. -/
def readFile : FileContent → Except StoreError Entries
  | .absent => .ok []
  | content =>
    match content.read with
    | .error e => .error (.io e)
    | .ok s =>
      if isBlankText s then .ok []
      else (entriesDecoder.ofText s).mapError fun failure => .format failure.message

/-- The text of a file that holds some values. -/
def fileText (entries : Entries) : String :=
  (Json.obj entries).pretty

/-- The file after values have been written to it. -/
def writeFile (entries : Entries) (content : FileContent) : Except StoreError FileContent :=
  (content.write (fileText entries)).mapError .io

/-- The values of a store. -/
def entries : Store → Except StoreError Entries
  | .memory entries => .ok entries
  | .file content => readFile content

/-- The value of a key. -/
def get (s : Store) (key : String) : Except StoreError (Option Json) :=
  s.entries.map (Json.lookup key)

/-- The store after a value has been put under a key. -/
def set (key : String) (value : Json) : Store → Except StoreError Store
  | .memory entries => .ok (.memory (Json.insertField key value entries))
  | .file content => do
    let entries ← readFile content
    return .file (← writeFile (Json.insertField key value entries) content)

/-- Saves a recipe under the key of its name. -/
def save (s : Store) (r : Recipe) : Except StoreError Store :=
  s.set (Recipe.keyFor r.name) r.toJson.canonical

/-- Loads the recipe of a name. -/
def load (s : Store) (name : String) : Except StoreError (Option Recipe) := do
  match ← s.get (Recipe.keyFor name) with
  | none => return none
  | some value => some <$> (Recipe.decoder.run value).mapError fun failure => .format failure.message

end Store

end PageScript
