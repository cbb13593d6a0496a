import PageScript.Config.Load
import PageScript.Proofs.Config.Record
import PageScript.Proofs.Yaml.Section

/-!
# Partial configurations

A document need not have all settings, and it may have entries that are no settings. It is read as
the standard configuration with exactly the settings replaced that it has, whichever they are, in
whatever order they stand, and whatever else there is.

What a setting is when it is left out is said twice: by its field, which counts in a section that is
there, and by the standard settings, which count for a section that is not. That the two agree is
shown section by section.

* `Config.Part` — some sections, each with some settings, and `applied`, which replaces these;
* `Config.Part.Writes` — a document has these settings and no others;
* `InterpreterConfig.Part.readsAs` and its siblings — what a section is read as;
* `Config.partial_overrides_named` — what a document is read as.
-/

namespace PageScript

open Yaml

/-- A path that may be absent is read from any text. -/
theorem readsAs_possible_path :
    ReadsAs (.possible .text) (Record.optional path) IsPossibleText :=
  fun _ s h => ⟨_, h, recovers_optional_path s⟩

variable {entries : List (Node × Node)} {node : Node}

/-! ### The interpreter -/

namespace InterpreterConfig

/-- Some of the settings of the interpreter. -/
structure Part where
  waitForElementTimeout : Option UInt64 := none
  elementPollInterval : Option UInt64 := none
  defaultQuiet : Option UInt64 := none
  networkIdleTimeout : Option UInt64 := none
  stopOnError : Option Bool := none
  screenshotDir : Option (Option String) := none
deriving DecidableEq, Repr

namespace Part

/-- The settings with some of them replaced. -/
def applied (p : Part) (c : InterpreterConfig) : InterpreterConfig where
  waitForElementTimeout := p.waitForElementTimeout.getD c.waitForElementTimeout
  elementPollInterval := p.elementPollInterval.getD c.elementPollInterval
  defaultQuiet := p.defaultQuiet.getD c.defaultQuiet
  networkIdleTimeout := p.networkIdleTimeout.getD c.networkIdleTimeout
  stopOnError := p.stopOnError.getD c.stopOnError
  screenshotDir := p.screenshotDir.getD c.screenshotDir

/-- All settings. -/
def whole (c : InterpreterConfig) : Part where
  waitForElementTimeout := some c.waitForElementTimeout
  elementPollInterval := some c.elementPollInterval
  defaultQuiet := some c.defaultQuiet
  networkIdleTimeout := some c.networkIdleTimeout
  stopOnError := some c.stopOnError
  screenshotDir := some c.screenshotDir

/-- The settings that entries have are these. -/
structure WrittenIn (p : Part) (entries : List (Node × Node)) : Prop where
  waitForElementTimeout :
    Gives entries "wait_for_element_timeout_ms" (fun node n => IsNumber node n.toNat)
      p.waitForElementTimeout
  elementPollInterval :
    Gives entries "element_poll_interval_ms" (fun node n => IsNumber node n.toNat)
      p.elementPollInterval
  defaultQuiet :
    Gives entries "default_quiet_ms" (fun node n => IsNumber node n.toNat) p.defaultQuiet
  networkIdleTimeout :
    Gives entries "network_idle_timeout_ms" (fun node n => IsNumber node n.toNat)
      p.networkIdleTimeout
  stopOnError : Gives entries "stop_on_error" IsTruth p.stopOnError
  screenshotDir : Gives entries "screenshot_dir" IsPossibleText p.screenshotDir

/-- A node is a section with these settings. -/
def Writes (node : Node) (p : Part) : Prop :=
  IsSection node p.WrittenIn

/-- A section is read as the standard settings with those replaced that it has. -/
theorem readsAs :
    ReadsAs shape decoder fun node c =>
      ∃ p : Part, Writes node p ∧ p.applied standard = c := by
  rintro node _ ⟨p, ⟨entries, hentries, hnamed, h⟩, rfl⟩
  have hfirst := h.waitForElementTimeout.takes readsAs_word64 standardElementTimeout
  have hfields := hfirst.map InterpreterConfig.mk
    |>.seq (h.elementPollInterval.takes readsAs_word64 standardPollInterval)
    |>.seq (h.defaultQuiet.takes readsAs_word64 standardQuiet)
    |>.seq (h.networkIdleTimeout.takes readsAs_word64 standardNetworkTimeout)
    |>.seq (h.stopOnError.takes readsAs_truth false)
    |>.seq (h.screenshotDir.takes readsAs_possible_path none)
  exact hfields.record (by decide) hentries hnamed _

/-- What is written for settings has all of them. -/
theorem writes_whole {c : InterpreterConfig} (h : Spells node c.toJson) :
    Writes node (whole c) :=
  h.isSection fun h =>
    { waitForElementTimeout := h.gives (by simp) (by simp) Spells.isNumber
      elementPollInterval := h.gives (by simp) (by simp) Spells.isNumber
      defaultQuiet := h.gives (by simp) (by simp) Spells.isNumber
      networkIdleTimeout := h.gives (by simp) (by simp) Spells.isNumber
      stopOnError := h.gives (by simp) (by simp) Spells.isTruth
      screenshotDir := h.gives (by simp) (by simp) Spells.isPossibleText }

end Part

end InterpreterConfig

/-! ### The observer -/

namespace ObserverConfig

/-- Some of the settings of the observer. -/
structure Part where
  bufferCapacity : Option UInt64 := none
  pollInterval : Option UInt64 := none
  domChannelCapacity : Option UInt64 := none
deriving DecidableEq, Repr

namespace Part

/-- The settings with some of them replaced. -/
def applied (p : Part) (c : ObserverConfig) : ObserverConfig where
  bufferCapacity := p.bufferCapacity.getD c.bufferCapacity
  pollInterval := p.pollInterval.getD c.pollInterval
  domChannelCapacity := p.domChannelCapacity.getD c.domChannelCapacity

/-- All settings. -/
def whole (c : ObserverConfig) : Part where
  bufferCapacity := some c.bufferCapacity
  pollInterval := some c.pollInterval
  domChannelCapacity := some c.domChannelCapacity

/-- The settings that entries have are these. -/
structure WrittenIn (p : Part) (entries : List (Node × Node)) : Prop where
  bufferCapacity :
    Gives entries "buffer_capacity" (fun node n => IsNumber node n.toNat) p.bufferCapacity
  pollInterval :
    Gives entries "poll_interval_ms" (fun node n => IsNumber node n.toNat) p.pollInterval
  domChannelCapacity :
    Gives entries "dom_channel_capacity" (fun node n => IsNumber node n.toNat) p.domChannelCapacity

/-- A node is a section with these settings. -/
def Writes (node : Node) (p : Part) : Prop :=
  IsSection node p.WrittenIn

/-- A section is read as the standard settings with those replaced that it has. -/
theorem readsAs :
    ReadsAs shape decoder fun node c =>
      ∃ p : Part, Writes node p ∧ p.applied standard = c := by
  rintro node _ ⟨p, ⟨entries, hentries, hnamed, h⟩, rfl⟩
  have hfields := (h.bufferCapacity.takes readsAs_size64 standardBuffer).map ObserverConfig.mk
    |>.seq (h.pollInterval.takes readsAs_word64 standardPollInterval)
    |>.seq (h.domChannelCapacity.takes readsAs_size64 standardChannel)
  exact hfields.record (by decide) hentries hnamed _

/-- What is written for settings has all of them. -/
theorem writes_whole {c : ObserverConfig} (h : Spells node c.toJson) :
    Writes node (whole c) :=
  h.isSection fun h =>
    { bufferCapacity := h.gives (by simp) (by simp) Spells.isNumber
      pollInterval := h.gives (by simp) (by simp) Spells.isNumber
      domChannelCapacity := h.gives (by simp) (by simp) Spells.isNumber }

end Part

end ObserverConfig

/-! ### The pause bridge -/

namespace BridgeConfig

/-- Some of the settings of the pause bridge. -/
structure Part where
  responseTimeout : Option (Option UInt64) := none
  channelCapacity : Option UInt64 := none
deriving DecidableEq, Repr

namespace Part

/-- The settings with some of them replaced. -/
def applied (p : Part) (c : BridgeConfig) : BridgeConfig where
  responseTimeout := p.responseTimeout.getD c.responseTimeout
  channelCapacity := p.channelCapacity.getD c.channelCapacity

/-- All settings. -/
def whole (c : BridgeConfig) : Part where
  responseTimeout := some c.responseTimeout
  channelCapacity := some c.channelCapacity

/-- The settings that entries have are these. -/
structure WrittenIn (p : Part) (entries : List (Node × Node)) : Prop where
  responseTimeout :
    Gives entries "response_timeout_ms" (fun node n => IsPossibleNumber node (n.map UInt64.toNat))
      p.responseTimeout
  channelCapacity :
    Gives entries "channel_capacity" (fun node n => IsNumber node n.toNat) p.channelCapacity

/-- A node is a section with these settings. -/
def Writes (node : Node) (p : Part) : Prop :=
  IsSection node p.WrittenIn

/-- A section is read as the standard settings with those replaced that it has. -/
theorem readsAs :
    ReadsAs shape decoder fun node c =>
      ∃ p : Part, Writes node p ∧ p.applied standard = c := by
  rintro node _ ⟨p, ⟨entries, hentries, hnamed, h⟩, rfl⟩
  have hfields := (h.responseTimeout.takes readsAs_possible_word64 none).map BridgeConfig.mk
    |>.seq (h.channelCapacity.takes readsAs_size64 standardChannel)
  exact hfields.record (by decide) hentries hnamed _

/-- What is written for settings has all of them. -/
theorem writes_whole {c : BridgeConfig} (h : Spells node c.toJson) :
    Writes node (whole c) :=
  h.isSection fun h =>
    { responseTimeout := h.gives (by simp) (by simp) Spells.isPossibleNumber
      channelCapacity := h.gives (by simp) (by simp) Spells.isNumber }

end Part

end BridgeConfig

/-! ### The store -/

namespace StorageConfig

/-- Some of the settings of the store. -/
structure Part where
  path : Option (Option String) := none
deriving DecidableEq, Repr

namespace Part

/-- The settings with some of them replaced. -/
def applied (p : Part) (c : StorageConfig) : StorageConfig where
  path := p.path.getD c.path

/-- All settings. -/
def whole (c : StorageConfig) : Part where
  path := some c.path

/-- The settings that entries have are these. -/
structure WrittenIn (p : Part) (entries : List (Node × Node)) : Prop where
  path : Gives entries "path" IsPossibleText p.path

/-- A node is a section with these settings. -/
def Writes (node : Node) (p : Part) : Prop :=
  IsSection node p.WrittenIn

/-- A section is read as the standard settings with those replaced that it has. -/
theorem readsAs :
    ReadsAs shape decoder fun node c =>
      ∃ p : Part, Writes node p ∧ p.applied standard = c := by
  rintro node _ ⟨p, ⟨entries, hentries, hnamed, h⟩, rfl⟩
  have hfields := (h.path.takes readsAs_possible_path none).map StorageConfig.mk
  exact hfields.record (by decide) hentries hnamed _

/-- What is written for settings has all of them. -/
theorem writes_whole {c : StorageConfig} (h : Spells node c.toJson) :
    Writes node (whole c) :=
  h.isSection fun h =>
    { path := h.gives (by simp) (by simp) Spells.isPossibleText }

end Part

end StorageConfig

/-! ### A page that is elsewhere -/

namespace RemoteConfig

/-- Some of the settings of a page that is elsewhere. -/
structure Part where
  port : Option UInt16 := none
  requestTimeout : Option UInt64 := none
deriving DecidableEq, Repr

namespace Part

/-- The settings with some of them replaced. -/
def applied (p : Part) (c : RemoteConfig) : RemoteConfig where
  port := p.port.getD c.port
  requestTimeout := p.requestTimeout.getD c.requestTimeout

/-- All settings. -/
def whole (c : RemoteConfig) : Part where
  port := some c.port
  requestTimeout := some c.requestTimeout

/-- The settings that entries have are these. -/
structure WrittenIn (p : Part) (entries : List (Node × Node)) : Prop where
  port : Gives entries "port" (fun node n => IsNumber node n.toNat) p.port
  requestTimeout :
    Gives entries "request_timeout_ms" (fun node n => IsNumber node n.toNat) p.requestTimeout

/-- A node is a section with these settings. -/
def Writes (node : Node) (p : Part) : Prop :=
  IsSection node p.WrittenIn

/-- A section is read as the standard settings with those replaced that it has. -/
theorem readsAs :
    ReadsAs shape decoder fun node c =>
      ∃ p : Part, Writes node p ∧ p.applied standard = c := by
  rintro node _ ⟨p, ⟨entries, hentries, hnamed, h⟩, rfl⟩
  have hfields := (h.port.takes readsAs_word16 standardPort).map RemoteConfig.mk
    |>.seq (h.requestTimeout.takes readsAs_word64 standardRequestTimeout)
  exact hfields.record (by decide) hentries hnamed _

/-- What is written for settings has all of them. -/
theorem writes_whole {c : RemoteConfig} (h : Spells node c.toJson) :
    Writes node (whole c) :=
  h.isSection fun h =>
    { port := h.gives (by simp) (by simp) Spells.isNumber
      requestTimeout := h.gives (by simp) (by simp) Spells.isNumber }

end Part

end RemoteConfig

/-! ### All settings -/

namespace Config

/-- Some of the sections, each with some of its settings. -/
structure Part where
  interpreter : Option InterpreterConfig.Part := none
  observer : Option ObserverConfig.Part := none
  bridge : Option BridgeConfig.Part := none
  storage : Option StorageConfig.Part := none
  remote : Option RemoteConfig.Part := none
deriving DecidableEq, Repr

namespace Part

/-- The configuration with some settings replaced. -/
def applied (p : Part) (c : Config) : Config where
  interpreter := (p.interpreter.map fun part => part.applied c.interpreter).getD c.interpreter
  observer := (p.observer.map fun part => part.applied c.observer).getD c.observer
  bridge := (p.bridge.map fun part => part.applied c.bridge).getD c.bridge
  storage := (p.storage.map fun part => part.applied c.storage).getD c.storage
  remote := (p.remote.map fun part => part.applied c.remote).getD c.remote

/-- The same settings in sections that are all there. -/
def opened (p : Part) : Part where
  interpreter := some (p.interpreter.getD {})
  observer := some (p.observer.getD {})
  bridge := some (p.bridge.getD {})
  storage := some (p.storage.getD {})
  remote := some (p.remote.getD {})

/-- All settings. -/
def whole (c : Config) : Part where
  interpreter := some (.whole c.interpreter)
  observer := some (.whole c.observer)
  bridge := some (.whole c.bridge)
  storage := some (.whole c.storage)
  remote := some (.whole c.remote)

/-- The sections that entries have are these. -/
structure WrittenIn (p : Part) (entries : List (Node × Node)) : Prop where
  interpreter : Gives entries "interpreter" InterpreterConfig.Part.Writes p.interpreter
  observer : Gives entries "observer" ObserverConfig.Part.Writes p.observer
  bridge : Gives entries "bridge" BridgeConfig.Part.Writes p.bridge
  storage : Gives entries "storage" StorageConfig.Part.Writes p.storage
  remote : Gives entries "remote" RemoteConfig.Part.Writes p.remote

/-- A node is a document with these sections. -/
def Writes (node : Node) (p : Part) : Prop :=
  IsSection node p.WrittenIn

/-- A document is read as the standard configuration with those settings replaced that it has. -/
theorem readsAs :
    ReadsAs shape decoder fun node c =>
      ∃ p : Part, Writes node p ∧ p.applied standard = c := by
  rintro node _ ⟨p, ⟨entries, hentries, hnamed, h⟩, rfl⟩
  have hinterpreter := (h.interpreter.map _).takes InterpreterConfig.Part.readsAs .standard
  have hfields := hinterpreter.map Config.mk
    |>.seq ((h.observer.map _).takes ObserverConfig.Part.readsAs .standard)
    |>.seq ((h.bridge.map _).takes BridgeConfig.Part.readsAs .standard)
    |>.seq ((h.storage.map _).takes StorageConfig.Part.readsAs .standard)
    |>.seq ((h.remote.map _).takes RemoteConfig.Part.readsAs .standard)
  exact hfields.record (by decide) hentries hnamed _

/-- What is written for a configuration has all settings. -/
theorem writes_whole {c : Config} (h : Spells node c.toJson) :
    Writes node (whole c) :=
  h.isSection fun h =>
    { interpreter := h.gives (by simp) (by simp) InterpreterConfig.Part.writes_whole
      observer := h.gives (by simp) (by simp) ObserverConfig.Part.writes_whole
      bridge := h.gives (by simp) (by simp) BridgeConfig.Part.writes_whole
      storage := h.gives (by simp) (by simp) StorageConfig.Part.writes_whole
      remote := h.gives (by simp) (by simp) RemoteConfig.Part.writes_whole }

/-- Sections without entries do not count. -/
theorem applied_opened (p : Part) (c : Config) : p.opened.applied c = p.applied c := by
  obtain ⟨interpreter, observer, bridge, storage, remote⟩ := p
  cases interpreter <;> cases observer <;> cases bridge <;> cases storage <;> cases remote <;> rfl

end Part

/-- The tree of a text: its document, or a section without entries where it has none. -/
def tree? (text : String) : Option Node :=
  if text.toList.all Text.isBlank then some Reads.absent
  else (Yaml.document? text).map fun root => root.getD Reads.absent

/-- A text is read as what its tree is read as. -/
theorem ofText_eq_ok {text : String} {c : Config} {j : Json} (htree : tree? text = some node)
    (hread : read? node shape = some j) (hrun : decoder.run j = .ok c) : ofText text = .ok c := by
  rw [tree?] at htree
  rw [ofText]
  -- A blank text is never handed to the reader of documents; its tree gives the same.
  split_ifs at htree ⊢ with hblank
  · obtain rfl : Reads.absent = node := Option.some.inj htree
    have hnothing : read? Reads.absent shape = some (.obj []) := by
      rw [shape, read?_section, Reads.absent, entries?, Option.bind_some, readEntries?]
      rfl
    obtain rfl : Json.obj [] = j := Option.some.inj (hnothing.symm.trans hread)
    have hstandard : decoder.run (.obj []) = .ok standard := rfl
    obtain rfl : standard = c := Except.ok.inj (hstandard.symm.trans hrun)
    rfl
  · obtain ⟨root, hroot, rfl⟩ := Option.map_eq_some_iff.mp htree
    have hvalue : readText? shape text = some j := by
      rw [readText?, hroot]
      exact hread
    simp only [hvalue, hrun]
    rfl

/-- A document gives the standard configuration with exactly the settings replaced that it has,
whichever sections it has, whichever settings these have, and whatever else is in it. So a section
that is left out is as one without entries, and a configuration is read back from its record in any
order and from a document that is written for it. -/
theorem partial_overrides_named :
    (∀ (text : String) (node : Node) (p : Part), tree? text = some node →
        Part.Writes node p → ofText text = .ok (p.applied standard)) ∧
      (∀ (text text' : String) (node node' : Node) (p p' : Part),
        tree? text = some node → Part.Writes node p →
        tree? text' = some node' → Part.Writes node' p' →
        p.opened = p'.opened → ofText text = ofText text') ∧
      (∀ c : Config, decoder.ReadsBack c.toJson c) ∧
      ∀ (text : String) (node : Node) (c : Config), tree? text = some node →
        Spells node c.toJson → ofText text = .ok c := by
  have hpart : ∀ (text : String) (node : Node) (p : Part), tree? text = some node →
      Part.Writes node p → ofText text = .ok (p.applied standard) := by
    intro text node p htree h
    obtain ⟨j, hread, hrecovers⟩ := Part.readsAs node _ ⟨p, h, rfl⟩
    exact ofText_eq_ok htree hread (hrecovers .direct j (Json.arranged_refl j))
  refine ⟨hpart, ?_, fun c => c.recovers_toJson.readsBack c.arranged_canonical_toJson, ?_⟩
  · intro text text' node node' p p' htree h htree' h' hopened
    -- Both are read as if all their sections were there.
    rw [hpart text node p htree h, hpart text' node' p' htree' h', ← p.applied_opened, hopened,
      p'.applied_opened]
  · intro text node c htree h
    exact hpart text node (.whole c) htree (Part.writes_whole h)

/-! ### Sample documents -/

section Samples

/-- A plain scalar. -/
def plainText (text : String) : Node :=
  .scalar .plain none text

/-- A scalar whose text is a number is read as this number. -/
theorem isNumber_plainText {text : String} {n : Nat} (h : number? text = some n) :
    IsNumber (plainText text) n := by
  rw [IsNumber, plainText, read?]
  simp [spells, h]

/-- A scalar spells the number that its text is. -/
private theorem spells_plainText_int {text : String} {n : Nat} (h : number? text = some n)
    (hthere : isThere? (plainText text) = some true) : Spells (plainText text) (.int n) := by
  refine .int ?_
  rw [read?, hthere]
  exact isNumber_plainText h

/-- A scalar spells the truth value that its text is. -/
private theorem spells_plainText_bool {text : String} {b : Bool} (h : truths.lookup text = some b)
    (hthere : isThere? (plainText text) = some true) : Spells (plainText text) (.bool b) := by
  refine .bool ?_
  rw [read?, hthere, plainText, Option.bind_some, if_pos rfl, read?]
  simp [spells, h]

/-- A scalar spells its own text. -/
private theorem spells_plainText_str {text : String}
    (hthere : isThere? (plainText text) = some true) :
    Spells (plainText text) (.str text) := by
  refine .str ?_
  rw [read?, hthere, plainText, Option.bind_some, if_pos rfl, read?]

/-- Sections one below the other, each with its settings and their texts. -/
abbrev Sample : Type := List (String × List (String × String))

namespace Sample

/-- The characters of a document. -/
def chars (s : Sample) : List Char :=
  s.flatMap fun part => part.1.toList ++ [':', '\n'] ++ part.2.flatMap fun setting =>
    [' ', ' '] ++ setting.1.toList ++ [':', ' '] ++ setting.2.toList ++ ['\n']

/-- The text of a document. -/
def text (s : Sample) : String :=
  .ofList s.chars

/-- The tokens of a section. -/
def sectionTokens : List (String × String) → List Token
  | [] => []
  | settings => .blockMapping :: settings.flatMap (fun setting =>
      [.key, .scalar .plain setting.1, .value, .scalar .plain setting.2]) ++ [.blockEnd]

/-- The tokens of a document. -/
def tokens (s : Sample) : List Token :=
  .blockMapping :: s.flatMap (fun part =>
    [.key, .scalar .plain part.1, .value] ++ sectionTokens part.2) ++ [.blockEnd, .finish]

/-- The node of a section. -/
def sectionNode : List (String × String) → Node
  | [] => plainText ""
  | settings => .mapping (settings.map fun setting => (plainText setting.1, plainText setting.2))

/-- The tree of a document. -/
def tree (s : Sample) : Node :=
  .mapping (s.map fun part => (plainText part.1, sectionNode part.2))

/-- Settings are named by their keys. -/
theorem named_map {α : Type} (settings : List (String × α)) (make : String × α → Node) :
    Named (settings.map fun setting => (plainText setting.1, make setting)) :=
  List.forall_mem_map.mpr fun setting _ => ⟨setting.1, rfl⟩

/-- A text has the tree that its tokens give. -/
private theorem tree?_text {s : Sample} {rest : Reader} (hallowed : s.chars.all isAllowed = true)
    (htokens : (Scanner.start s.chars).run (s.chars.length + 1) = some s.tokens)
    (hdocument : (Reads.document (8 * s.tokens.length + 8)).run ⟨s.tokens, [], []⟩ =
      some (some s.tree, rest)) (hthere : s.chars.all Text.isBlank = false) :
    tree? s.text = some s.tree := by
  have hchars : s.text.toList = s.chars := String.toList_ofList
  have hroot : Yaml.document? s.text = some (some s.tree) := by
    simp [Yaml.document?, tokens?, hchars, hallowed, htokens, hdocument]
  rw [tree?, hchars, hthere, hroot]
  rfl

end Sample

/-- The port is moved, and there is something else. -/
def portSample : Sample :=
  [("remote", [("port", "9100")]), ("notes", [("colour", "red")])]

/-- The port is moved, and the store has a section without settings. -/
def storeSample : Sample :=
  [("storage", []), ("remote", [("port", "9100")])]

/-- All settings are there. -/
def wholeSample : Sample := [
  ("interpreter", [("wait_for_element_timeout_ms", "1500"), ("element_poll_interval_ms", "250"),
    ("default_quiet_ms", "500"), ("network_idle_timeout_ms", "10000"), ("stop_on_error", "true"),
    ("screenshot_dir", "shots")]),
  ("observer", [("buffer_capacity", "1000"), ("poll_interval_ms", "10"),
    ("dom_channel_capacity", "256")]),
  ("bridge", [("response_timeout_ms", "null"), ("channel_capacity", "64")]),
  ("storage", [("path", "null")]),
  ("remote", [("port", "9001"), ("request_timeout_ms", "30000")])]

/-- The configuration of `wholeSample`. -/
def wholeConfig : Config :=
  { standard with
    interpreter := { InterpreterConfig.standard with
      waitForElementTimeout := 1500, stopOnError := true, screenshotDir := some "shots" } }

set_option maxRecDepth 2000 in
/-- The sample has its tree. -/
private theorem tree?_wholeSample : tree? wholeSample.text = some wholeSample.tree :=
  Sample.tree?_text (by decide +kernel) (by decide +kernel) rfl (by decide +kernel)

/-- The sample spells its configuration. -/
private theorem spells_wholeSample : Spells wholeSample.tree wholeConfig.toJson := by
  have number {text : String} {n : Nat} (h : number? text = some n)
      (hthere : isThere? (plainText text) = some true) := spells_plainText_int h hthere
  -- Each section is spelled field by field, in the order of the record.
  refine .obj (.cons rfl (.obj ?interpreter) (.cons rfl (.obj ?observer) (.cons rfl (.obj ?bridge)
    (.cons rfl (.obj ?storage) (.cons rfl (.obj ?remote) .nil)))))
  case interpreter =>
    refine .cons rfl (number ?_ ?_) (.cons rfl (number ?_ ?_) (.cons rfl (number ?_ ?_)
      (.cons rfl (number ?_ ?_) (.cons rfl (spells_plainText_bool ?_ ?_)
        (.cons rfl (spells_plainText_str ?_) .nil)))))
    all_goals decide +kernel
  case observer =>
    refine .cons rfl (number ?_ ?_) (.cons rfl (number ?_ ?_) (.cons rfl (number ?_ ?_) .nil))
    all_goals decide +kernel
  case bridge =>
    refine .cons rfl (.null ?_) (.cons rfl (number ?_ ?_) .nil)
    all_goals decide +kernel
  case storage => exact .cons rfl (.null (by decide +kernel)) .nil
  case remote =>
    refine .cons rfl (number ?_ ?_) (.cons rfl (number ?_ ?_) .nil)
    all_goals decide +kernel

/-- A document with an unknown section moves the port and nothing else, as does one that has a
section for the store without saying anything there, and a document of all settings is read as
these. -/
theorem partial_overrides_named_samples :
    ofText portSample.text =
        .ok { standard with remote := { RemoteConfig.standard with port := 9100 } } ∧
      ofText portSample.text = ofText storeSample.text ∧
      decoder.ReadsBack wholeConfig.toJson wholeConfig ∧
      ofText wholeSample.text = .ok wholeConfig := by
  obtain ⟨hpart, hopened, hback, hwhole⟩ := partial_overrides_named
  have hremote : RemoteConfig.Part.Writes (Sample.sectionNode [("port", "9100")])
      { port := some 9100 } :=
    ⟨_, rfl, Sample.named_map [("port", "9100")] _,
      ⟨_, rfl, isNumber_plainText (by decide +kernel)⟩, rfl⟩
  have hstorage : StorageConfig.Part.Writes (Sample.sectionNode []) {} :=
    ⟨_, rfl, List.forall_mem_nil _, ⟨rfl⟩⟩
  have hport : Part.Writes portSample.tree { remote := some { port := some 9100 } } :=
    ⟨_, rfl, Sample.named_map portSample _, rfl, rfl, rfl, rfl, _, rfl, hremote⟩
  have hstore : Part.Writes storeSample.tree
      { storage := some {}, remote := some { port := some 9100 } } :=
    ⟨_, rfl, Sample.named_map storeSample _, rfl, rfl, rfl, ⟨_, rfl, hstorage⟩, _, rfl, hremote⟩
  have hporttree : tree? portSample.text = some portSample.tree :=
    Sample.tree?_text (by decide +kernel) (by decide +kernel) rfl (by decide +kernel)
  have hstoretree : tree? storeSample.text = some storeSample.tree :=
    Sample.tree?_text (by decide +kernel) (by decide +kernel) rfl (by decide +kernel)
  exact ⟨hpart _ _ _ hporttree hport,
    hopened _ _ _ _ _ _ hporttree hport hstoretree hstore rfl,
    hback wholeConfig, hwhole _ _ wholeConfig tree?_wholeSample spells_wholeSample⟩

end Samples

end Config

end PageScript
