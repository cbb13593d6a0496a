/-!
# Configuration

The settings of each part, with the values they have when they are not given.
-/

namespace PageScript

/-- The settings of the interpreter. -/
structure InterpreterConfig where
  /-- How long `waitforelement` waits unless it says so. -/
  waitForElementTimeout : UInt64
  /-- How long `waitforelement` waits between two looks when the document does not change. -/
  elementPollInterval : UInt64
  /-- How long a page must be still for `waitfor quiet` unless it says so. -/
  defaultQuiet : UInt64
  /-- How long `waitfor network` waits unless it says so. -/
  networkIdleTimeout : UInt64
  /-- Whether a step that fails ends the run. -/
  stopOnError : Bool
  /-- The directory that screenshots are written to. -/
  screenshotDir : Option String
deriving DecidableEq, Repr

/-- The settings of the observer. -/
structure ObserverConfig where
  /-- The number of events that are kept. -/
  bufferCapacity : UInt64
  /-- How long a wait for quiet sleeps at most between two looks. -/
  pollInterval : UInt64
  /-- The number of changes of the document that are kept for those who follow them. -/
  domChannelCapacity : UInt64
deriving DecidableEq, Repr

/-- The settings of the pause bridge. -/
structure BridgeConfig where
  /-- How long a toast waits for its answer, forever if it is not given. -/
  responseTimeout : Option UInt64
  /-- The number of messages that are kept for those who follow the channel. -/
  channelCapacity : UInt64
deriving DecidableEq, Repr

/-- The settings of the store. -/
structure StorageConfig where
  /-- The file of the store. -/
  path : Option String
deriving DecidableEq, Repr

/-- The settings of a page that is elsewhere. -/
structure RemoteConfig where
  /-- The port that is listened on. -/
  port : UInt16
  /-- How long a request waits for its response. -/
  requestTimeout : UInt64
deriving DecidableEq, Repr

/-- All settings. -/
structure Config where
  /-- The settings of the interpreter. -/
  interpreter : InterpreterConfig
  /-- The settings of the observer. -/
  observer : ObserverConfig
  /-- The settings of the pause bridge. -/
  bridge : BridgeConfig
  /-- The settings of the store. -/
  storage : StorageConfig
  /-- The settings of a page that is elsewhere. -/
  remote : RemoteConfig
deriving DecidableEq, Repr

namespace InterpreterConfig

/-- How long `waitforelement` waits when it is not given. -/
def standardElementTimeout : UInt64 := 5000

/-- How long `waitforelement` waits between two looks when it is not given. -/
def standardPollInterval : UInt64 := 250

/-- How long a page must be still when it is not given. -/
def standardQuiet : UInt64 := 500

/-- How long `waitfor network` waits when it is not given. -/
def standardNetworkTimeout : UInt64 := 10000

/-- The settings of the interpreter when nothing is given. -/
def standard : InterpreterConfig where
  waitForElementTimeout := standardElementTimeout
  elementPollInterval := standardPollInterval
  defaultQuiet := standardQuiet
  networkIdleTimeout := standardNetworkTimeout
  stopOnError := false
  screenshotDir := none

end InterpreterConfig

namespace ObserverConfig

/-- The number of events that are kept when it is not given. -/
def standardBuffer : UInt64 := 1000

/-- How long a wait for quiet sleeps at most when it is not given. -/
def standardPollInterval : UInt64 := 10

/-- The number of changes that are kept when it is not given. -/
def standardChannel : UInt64 := 256

/-- The settings of the observer when nothing is given. -/
def standard : ObserverConfig where
  bufferCapacity := standardBuffer
  pollInterval := standardPollInterval
  domChannelCapacity := standardChannel

end ObserverConfig

namespace BridgeConfig

/-- The number of messages that are kept when it is not given. -/
def standardChannel : UInt64 := 64

/-- The settings of the pause bridge when nothing is given. -/
def standard : BridgeConfig where
  responseTimeout := none
  channelCapacity := standardChannel

end BridgeConfig

/-- The settings of the store when nothing is given. -/
def StorageConfig.standard : StorageConfig where
  path := none

namespace RemoteConfig

/-- The port that is listened on when it is not given. -/
def standardPort : UInt16 := 9001

/-- How long a request waits for its response when it is not given. -/
def standardRequestTimeout : UInt64 := 30000

/-- The settings of a page that is elsewhere when nothing is given. -/
def standard : RemoteConfig where
  port := standardPort
  requestTimeout := standardRequestTimeout

end RemoteConfig

/-- All settings when nothing is given. -/
def Config.standard : Config where
  interpreter := .standard
  observer := .standard
  bridge := .standard
  storage := .standard
  remote := .standard

end PageScript
