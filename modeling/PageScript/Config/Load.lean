import PageScript.Config.Record
import PageScript.File
import PageScript.Text.Blank
import PageScript.Yaml.Shape

/-!
# Loading a configuration

A configuration file is a YAML document; an empty one gives the standard values. Where no file is named, the first
one that is found in some places counts.
-/

namespace PageScript

open Yaml (Shape)

/-- Why a configuration cannot be loaded. -/
inductive ConfigError where
  | io (error : FileError)
  | invalid
deriving DecidableEq, Repr

namespace ConfigError

/-- What is at the bottom of an error. -/
def cause : ConfigError → String
  | .io error => error.message
  | .invalid => "not a configuration"

/-- The wording of an error. -/
def message : ConfigError → String
  | .io error => "Failed to read config file: " ++ error.message
  | .invalid => "Failed to parse config file: " ++ ConfigError.invalid.cause

end ConfigError

/-- The settings of the interpreter in a document. -/
def InterpreterConfig.shape : Shape :=
  .section [
    ("wait_for_element_timeout_ms", .number),
    ("element_poll_interval_ms", .number),
    ("default_quiet_ms", .number),
    ("network_idle_timeout_ms", .number),
    ("stop_on_error", .truth),
    ("screenshot_dir", .possible .text)]

/-- The settings of the observer in a document. -/
def ObserverConfig.shape : Shape :=
  .section [
    ("buffer_capacity", .number),
    ("poll_interval_ms", .number),
    ("dom_channel_capacity", .number)]

/-- The settings of the pause bridge in a document. -/
def BridgeConfig.shape : Shape :=
  .section [("response_timeout_ms", .possible .number), ("channel_capacity", .number)]

/-- The settings of the store in a document. -/
def StorageConfig.shape : Shape :=
  .section [("path", .possible .text)]

/-- The settings of a page that is elsewhere in a document. -/
def RemoteConfig.shape : Shape :=
  .section [("port", .number), ("request_timeout_ms", .number)]

namespace Config

/-- The settings in a document. -/
def shape : Shape :=
  .section [
    ("interpreter", InterpreterConfig.shape),
    ("observer", ObserverConfig.shape),
    ("bridge", BridgeConfig.shape),
    ("storage", StorageConfig.shape),
    ("remote", RemoteConfig.shape)]

/-- The configuration of a document. -/
def ofText (text : String) : Except ConfigError Config :=
  if text.toList.all Text.isBlank then .ok .standard
  else
    match Yaml.readText? shape text with
    | none => .error .invalid
    | some j => (decoder.run j).mapError fun _ => .invalid

/-- The configuration of a file. -/
def ofFile (content : FileContent) : Except ConfigError Config :=
  match content.read with
  | .ok text => ofText text
  | .error e => .error (.io e)

/-- The configuration of the first file that exists, or the standard one. -/
def ofFirst : List FileContent → Except ConfigError Config
  | [] => .ok .standard
  | content :: rest => if content.isPresent then ofFile content else ofFirst rest

/-- The places where a configuration is looked for. -/
def searchPaths (home : String) : List String :=
  ["./stepper.yaml", joinPath (joinPath home ".stepper") "config.yaml"]

/-- The configuration of the file that is named, or else of the first one that is found. -/
def locate (look : String → FileContent) (home : String) : Option String → Except ConfigError Config
  | some path => ofFile (look path)
  | none => ofFirst ((searchPaths home).map look)

end Config

namespace StorageConfig

/-- The directory for data: the one that is named, if its path is absolute, or else the usual one. -/
def dataDirectory (home : String) (named : Option String) : String :=
  match named with
  | some path => if path.startsWith "/" then path else joinPath home ".local/share"
  | none => joinPath home ".local/share"

/-- The file of the store. -/
def file (c : StorageConfig) (home : String) (dataHome : Option String) : String :=
  c.path.getD (joinPath (joinPath (dataDirectory home dataHome) "stepper") "store.json")

end StorageConfig

end PageScript
