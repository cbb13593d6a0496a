import PageScript.Config.Record
import PageScript.Proofs.Json.Arranged
import PageScript.Proofs.Record.Recovers

/-!
# Configurations read back

The record of each section, and of a whole configuration, is read as what it was made of, in
whatever order its entries stand.
-/

namespace PageScript

open Json Record

/-- A path is read back from its text. -/
theorem recovers_path (s : String) : Decoder.Recovers path (.str s) s := by
  intro r j' h
  cases h
  rfl

/-- A path is read back, whether it is there or not. -/
theorem recovers_optional_path (s : Option String) :
    (optional path).Recovers (Json.ofText? s) s := by
  cases s with
  | none => exact recovers_optional_none
  | some s => exact (recovers_path s).optional nofun

namespace InterpreterConfig

/-- The settings of the interpreter are read back. -/
theorem recovers_toJson (c : InterpreterConfig) : decoder.Recovers c.toJson c := by
  refine Fields.Recovers.record ?_ (by simp) _
  exact ((recovers_field (by simp) (recovers_word64 c.waitForElementTimeout)).map mk)
    |>.seq (recovers_field (by simp) (recovers_word64 c.elementPollInterval))
    |>.seq (recovers_field (by simp) (recovers_word64 c.defaultQuiet))
    |>.seq (recovers_field (by simp) (recovers_word64 c.networkIdleTimeout))
    |>.seq (recovers_field (by simp) (recovers_truth c.stopOnError))
    |>.seq (recovers_field (by simp) (recovers_optional_path c.screenshotDir))

/-- The order of the settings of the interpreter does not count. -/
theorem arranged_canonical_toJson (c : InterpreterConfig) : Arranged c.toJson c.toJson.canonical :=
  arranged_canonical_obj (by simp) (by simp)

end InterpreterConfig

namespace ObserverConfig

/-- The settings of the observer are read back. -/
theorem recovers_toJson (c : ObserverConfig) : decoder.Recovers c.toJson c :=
  recovers_record_three (by decide) (recovers_size64 c.bufferCapacity)
    (recovers_word64 c.pollInterval) (recovers_size64 c.domChannelCapacity)

/-- The order of the settings of the observer does not count. -/
theorem arranged_canonical_toJson (c : ObserverConfig) : Arranged c.toJson c.toJson.canonical :=
  arranged_canonical_obj (by simp) (by simp)

end ObserverConfig

namespace BridgeConfig

/-- The settings of the bridge are read back. -/
theorem recovers_toJson (c : BridgeConfig) : decoder.Recovers c.toJson c :=
  recovers_record_two (by decide) (recovers_optional_ofNat? c.responseTimeout)
    (recovers_size64 c.channelCapacity)

/-- The order of the settings of the bridge does not count. -/
theorem arranged_canonical_toJson (c : BridgeConfig) : Arranged c.toJson c.toJson.canonical :=
  arranged_canonical_obj (by simp) (by simp)

end BridgeConfig

namespace StorageConfig

/-- The settings of the store are read back. -/
theorem recovers_toJson (c : StorageConfig) : decoder.Recovers c.toJson c :=
  recovers_record_one (recovers_optional_path c.path)

/-- The order of the settings of the store does not count. -/
theorem arranged_canonical_toJson (c : StorageConfig) : Arranged c.toJson c.toJson.canonical :=
  arranged_canonical_obj (by simp) (by simp)

end StorageConfig

namespace RemoteConfig

/-- The settings of a page that is elsewhere are read back. -/
theorem recovers_toJson (c : RemoteConfig) : decoder.Recovers c.toJson c :=
  recovers_record_two (by decide) (recovers_word16 c.port) (recovers_word64 c.requestTimeout)

/-- The order of the settings of a page that is elsewhere does not count. -/
theorem arranged_canonical_toJson (c : RemoteConfig) : Arranged c.toJson c.toJson.canonical :=
  arranged_canonical_obj (by simp) (by simp)

end RemoteConfig

namespace Config

/-- A configuration is read back. -/
theorem recovers_toJson (c : Config) : decoder.Recovers c.toJson c := by
  refine Fields.Recovers.record ?_ (by simp) _
  exact ((recovers_field (by simp) c.interpreter.recovers_toJson).map mk)
    |>.seq (recovers_field (by simp) c.observer.recovers_toJson)
    |>.seq (recovers_field (by simp) c.bridge.recovers_toJson)
    |>.seq (recovers_field (by simp) c.storage.recovers_toJson)
    |>.seq (recovers_field (by simp) c.remote.recovers_toJson)

/-- The order of the sections of a configuration does not count. -/
theorem arranged_canonical_toJson (c : Config) : Arranged c.toJson c.toJson.canonical := by
  refine arranged_canonical_obj (by simp) ?_
  simp [InterpreterConfig.arranged_canonical_toJson, ObserverConfig.arranged_canonical_toJson,
    BridgeConfig.arranged_canonical_toJson, StorageConfig.arranged_canonical_toJson,
    RemoteConfig.arranged_canonical_toJson]

end Config

end PageScript
