import PageScript.Config.Basic
import PageScript.Record.Decoder

/-!
# Configuration as records

Every section and every field of a section may be left out, and then has its standard value.
-/

namespace PageScript

open Record

/-- Reads the path of a file. -/
def path : Decoder String
  | _, .str s => .ok s
  | _, j => refuse .path j

namespace InterpreterConfig

/-- The record of the settings. -/
def toJson (c : InterpreterConfig) : Json :=
  .obj [
    ("wait_for_element_timeout_ms", .int c.waitForElementTimeout.toNat),
    ("element_poll_interval_ms", .int c.elementPollInterval.toNat),
    ("default_quiet_ms", .int c.defaultQuiet.toNat),
    ("network_idle_timeout_ms", .int c.networkIdleTimeout.toNat),
    ("stop_on_error", .bool c.stopOnError),
    ("screenshot_dir", .ofText? c.screenshotDir)]

/-- Reads the settings. -/
def decoder : Decoder InterpreterConfig :=
  Record.record (.record "InterpreterConfig")
    (InterpreterConfig.mk
      <$> defaulting "wait_for_element_timeout_ms" word64 standardElementTimeout
      <*> defaulting "element_poll_interval_ms" word64 standardPollInterval
      <*> defaulting "default_quiet_ms" word64 standardQuiet
      <*> defaulting "network_idle_timeout_ms" word64 standardNetworkTimeout
      <*> defaulting "stop_on_error" truth false
      <*> possible "screenshot_dir" path)

end InterpreterConfig

namespace ObserverConfig

/-- The record of the settings. -/
def toJson (c : ObserverConfig) : Json :=
  .obj [
    ("buffer_capacity", .int c.bufferCapacity.toNat),
    ("poll_interval_ms", .int c.pollInterval.toNat),
    ("dom_channel_capacity", .int c.domChannelCapacity.toNat)]

/-- Reads the settings. -/
def decoder : Decoder ObserverConfig :=
  Record.record (.record "ObserverConfig")
    (ObserverConfig.mk
      <$> defaulting "buffer_capacity" size64 standardBuffer
      <*> defaulting "poll_interval_ms" word64 standardPollInterval
      <*> defaulting "dom_channel_capacity" size64 standardChannel)

end ObserverConfig

namespace BridgeConfig

/-- The record of the settings. -/
def toJson (c : BridgeConfig) : Json :=
  .obj [
    ("response_timeout_ms", .ofNat? (c.responseTimeout.map UInt64.toNat)),
    ("channel_capacity", .int c.channelCapacity.toNat)]

/-- Reads the settings. -/
def decoder : Decoder BridgeConfig :=
  Record.record (.record "BridgeConfig")
    (BridgeConfig.mk <$> possible "response_timeout_ms" word64
      <*> defaulting "channel_capacity" size64 standardChannel)

end BridgeConfig

namespace StorageConfig

/-- The record of the settings. -/
def toJson (c : StorageConfig) : Json :=
  .obj [("path", .ofText? c.path)]

/-- Reads the settings. -/
def decoder : Decoder StorageConfig :=
  Record.record (.record "StorageConfig") (StorageConfig.mk <$> possible "path" PageScript.path)

end StorageConfig

namespace RemoteConfig

/-- The record of the settings. -/
def toJson (c : RemoteConfig) : Json :=
  .obj [("port", .int c.port.toNat), ("request_timeout_ms", .int c.requestTimeout.toNat)]

/-- Reads the settings. -/
def decoder : Decoder RemoteConfig :=
  Record.record (.record "RemoteConfig")
    (RemoteConfig.mk <$> defaulting "port" word16 standardPort
      <*> defaulting "request_timeout_ms" word64 standardRequestTimeout)

end RemoteConfig

namespace Config

/-- The record of all settings. -/
def toJson (c : Config) : Json :=
  .obj [
    ("interpreter", c.interpreter.toJson),
    ("observer", c.observer.toJson),
    ("bridge", c.bridge.toJson),
    ("storage", c.storage.toJson),
    ("remote", c.remote.toJson)]

/-- Reads all settings. -/
def decoder : Decoder Config :=
  Record.record (.record "StepperConfig")
    (Config.mk
      <$> defaulting "interpreter" InterpreterConfig.decoder .standard
      <*> defaulting "observer" ObserverConfig.decoder .standard
      <*> defaulting "bridge" BridgeConfig.decoder .standard
      <*> defaulting "storage" StorageConfig.decoder .standard
      <*> defaulting "remote" RemoteConfig.decoder .standard)

end Config

end PageScript
