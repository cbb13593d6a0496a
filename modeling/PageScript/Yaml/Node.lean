import PageScript.Yaml.Token

/-!
# Nodes

A document is one node: a scalar, a sequence of nodes or a mapping of nodes to nodes. A node may be named, and its
name may stand for it later on.
-/

namespace PageScript.Yaml

/-- A node of a document. -/
inductive Node where
  | scalar (style : Style) (tag : Option String) (text : String)
  | sequence (items : List Node)
  | mapping (entries : List (Node × Node))
  /-- A name inside the node that it stands for. -/
  | endless

/-- Where the reading of nodes has come to. -/
structure Reader where
  /-- The tokens left. -/
  tokens : List Token
  /-- The named nodes, the latest first; a node is not known yet while it is being read. -/
  names : List (String × Option Node)
  /-- The texts that the handles of tags stand for. -/
  handles : List (String × String)

/-- Reads a part of a document. -/
abbrev Reads (α : Type) : Type := StateT Reader Option α

namespace Reads

/-- The next token. -/
def peek : Reads Token := do
  return (← get).tokens.headD .finish

/-- Moves over a token. -/
def skip : Reads Unit :=
  modify fun r => { r with tokens := r.tokens.drop 1 }

/-- There is nothing that can be read. -/
def refuse : Reads α :=
  failure

/-- A scalar that is not there. -/
def absent : Node :=
  .scalar .plain none ""

/-- The full text of a tag. -/
def tagText (handle suffix : String) : Reads String := do
  if handle.isEmpty then return suffix
  else
    match (← get).handles.lookup handle with
    | some text => return text ++ suffix
    | none => refuse

/-- The name and the tag in front of a node, in either order. -/
def properties : Reads (Option String × Option String) := do
  match ← peek with
  | .anchor name => do
    skip
    match ← peek with
    | .tag handle suffix => do
      skip
      return (some name, some (← tagText handle suffix))
    | _ => return (some name, none)
  | .tag handle suffix => do
    skip
    match ← peek with
    | .anchor name => do
      skip
      return (some name, some (← tagText handle suffix))
    | _ => return (none, some (← tagText handle suffix))
  | _ => return (none, none)

/-- What a name stands for. -/
def named (name : String) : Reads Node := do
  match (← get).names.lookup name with
  | some (some node) => return node
  | some none => return .endless
  | none => refuse

/-- Lets a name stand for the node that is being read. -/
def openName : Option String → Reads Unit
  | some name => modify fun r => { r with names := (name, none) :: r.names }
  | none => return ()

/-- The node of the latest name that was still open is known. -/
def knowNode (name : String) (node : Node) : List (String × Option Node) → List (String × Option Node)
  | [] => []
  | entry :: rest =>
    if entry.1 = name ∧ entry.2.isNone then (name, some node) :: rest else entry :: knowNode name node rest

/-- The node of a name has been read. -/
def closeName (name : Option String) (node : Node) : Reads Unit :=
  match name with
  | some name => modify fun r => { r with names := knowNode name node r.names }
  | none => return ()

/-- A node without content is there if it has a name or a tag. -/
def scalarOrAbsent (property : Bool) : Reads Node :=
  if property then return absent else refuse

mutual

/-- Reads a node. In the entries of a block mapping a sequence need not be further in. -/
def node (block indentless : Bool) : Nat → Reads Node
  | 0 => refuse
  | fuel + 1 => do
    match ← peek with
    | .reference name => do
      skip
      named name
    | _ => do
      let (anchor, tag) ← properties
      openName anchor
      let read ← content block indentless anchor tag fuel
      closeName anchor read
      return read

/-- Reads what a node holds. -/
def content (block indentless : Bool) (anchor tag : Option String) : Nat → Reads Node
  | 0 => refuse
  | fuel + 1 => do
    match ← peek with
    | .scalar style text => do
      skip
      return .scalar style tag text
    | .flowSequence => do
      skip
      return .sequence (← flowItems true fuel)
    | .flowMapping => do
      skip
      return .mapping (← flowEntries true fuel)
    | .entry =>
      if indentless then return .sequence (← indentlessItems fuel)
      else scalarOrAbsent (anchor.isSome || tag.isSome)
    | .blockSequence =>
      if block then do
        skip
        return .sequence (← blockItems fuel)
      else scalarOrAbsent (anchor.isSome || tag.isSome)
    | .blockMapping =>
      if block then do
        skip
        return .mapping (← blockEntries fuel)
      else scalarOrAbsent (anchor.isSome || tag.isSome)
    | _ => scalarOrAbsent (anchor.isSome || tag.isSome)

/-- Reads a node unless one of some tokens follows. -/
def nodeUnless (block indentless : Bool) (ends : List Token) : Nat → Reads Node
  | 0 => refuse
  | fuel + 1 => do
    if ends.contains (← peek) then return absent
    else node block indentless fuel

/-- Reads the items of a block sequence. -/
def blockItems : Nat → Reads (List Node)
  | 0 => refuse
  | fuel + 1 => do
    match ← peek with
    | .entry => do
      skip
      let item ← nodeUnless true false [.entry, .blockEnd] fuel
      return item :: (← blockItems fuel)
    | .blockEnd => do
      skip
      return []
    | _ => refuse

/-- Reads the items of a block sequence that is not further in than the mapping around it. -/
def indentlessItems : Nat → Reads (List Node)
  | 0 => refuse
  | fuel + 1 => do
    match ← peek with
    | .entry => do
      skip
      let item ← nodeUnless true false [.entry, .key, .value, .blockEnd] fuel
      return item :: (← indentlessItems fuel)
    | _ => return []

/-- Reads the entries of a block mapping. -/
def blockEntries : Nat → Reads (List (Node × Node))
  | 0 => refuse
  | fuel + 1 => do
    match ← peek with
    | .key => do
      skip
      let key ← nodeUnless true true [.key, .value, .blockEnd] fuel
      let value ← blockValue fuel
      return (key, value) :: (← blockEntries fuel)
    | .blockEnd => do
      skip
      return []
    | _ => refuse

/-- Reads the value of a block mapping. -/
def blockValue : Nat → Reads Node
  | 0 => refuse
  | fuel + 1 => do
    match ← peek with
    | .value => do
      skip
      nodeUnless true true [.key, .value, .blockEnd] fuel
    | _ => return absent

/-- Reads the items of a sequence in brackets. A pair among them is a mapping. -/
def flowItems (first : Bool) : Nat → Reads (List Node)
  | 0 => refuse
  | fuel + 1 => do
    if (← peek) = .flowSequenceEnd then
      skip
      return []
    else
      if !first then
        if (← peek) = .flowEntry then skip else refuse
      match ← peek with
      | .flowSequenceEnd => do
        skip
        return []
      | .key => do
        skip
        let item ← flowPair fuel
        return item :: (← flowItems false fuel)
      | _ => do
        let item ← node false false fuel
        return item :: (← flowItems false fuel)

/-- Reads a pair among the items of a sequence in brackets, behind its mark. -/
def flowPair : Nat → Reads Node
  | 0 => refuse
  | fuel + 1 => do
    let t ← peek
    let key ← if t = .value ∨ t = .flowEntry ∨ t = .flowSequenceEnd then do
        skip
        pure absent
      else node false false fuel
    if (← peek) = .value then
      skip
      let value ← nodeUnless false false [.flowEntry, .flowSequenceEnd] fuel
      return .mapping [(key, value)]
    else return .mapping [(key, absent)]

/-- Reads the entries of a mapping in braces. -/
def flowEntries (first : Bool) : Nat → Reads (List (Node × Node))
  | 0 => refuse
  | fuel + 1 => do
    if (← peek) = .flowMappingEnd then
      skip
      return []
    else
      if !first then
        if (← peek) = .flowEntry then skip else refuse
      match ← peek with
      | .flowMappingEnd => do
        skip
        return []
      | .key => do
        skip
        let key ← nodeUnless false false [.value, .flowEntry, .flowMappingEnd] fuel
        let value ← flowValue fuel
        return (key, value) :: (← flowEntries false fuel)
      | _ => do
        let key ← node false false fuel
        return (key, absent) :: (← flowEntries false fuel)

/-- Reads the value of a mapping in braces. -/
def flowValue : Nat → Reads Node
  | 0 => refuse
  | fuel + 1 => do
    if (← peek) = .value then
      skip
      nodeUnless false false [.flowEntry, .flowMappingEnd] fuel
    else return absent

end

/-- The handles that stand for something without a directive. -/
def standardHandles : List (String × String) :=
  [("!", "!"), ("!!", "tag:yaml.org,2002:")]

/-- Reads the directives in front of a document. -/
def directives (version : Bool) (handles : List (String × String)) : Nat → Reads (List (String × String) × Bool)
  | 0 => refuse
  | fuel + 1 => do
    match ← peek with
    | .version major minor =>
      if version || major ≠ 1 || (minor ≠ 1 && minor ≠ 2) then refuse
      else do
        skip
        directives true handles fuel
    | .tagPrefix handle text =>
      if (handles.lookup handle).isSome then refuse
      else do
        skip
        directives version ((handle, text) :: handles) fuel
    | _ => return (handles, version || !handles.isEmpty)

/-- Moves over the ends of a document. -/
def skipEnds : Nat → Reads Unit
  | 0 => return ()
  | fuel + 1 => do
    if (← peek) = .documentEnd then
      skip
      skipEnds fuel

/-- Reads a document, if there is one. There is only one. -/
def document (fuel : Nat) : Reads (Option Node) := do
  if (← peek) = .finish then return none
  let (handles, directed) ← directives false [] fuel
  modify fun r => { r with handles := handles ++ standardHandles }
  let read ← do
    if (← peek) = .documentStart then
      skip
      nodeUnless true false [.documentStart, .documentEnd, .finish] fuel
    else if directed then refuse
    else node true false fuel
  skipEnds fuel
  if (← peek) = .finish then return some read else refuse

end Reads

/-- The document of a text: its node, nothing if it has none, or no answer at all if it is no document. -/
def document? (text : String) : Option (Option Node) := do
  let tokens ← tokens? text
  let (node, _) ← (Reads.document (8 * tokens.length + 8)).run ⟨tokens, [], []⟩
  return node

end PageScript.Yaml
