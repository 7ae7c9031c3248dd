import Scaffold.Record
import Scaffold.Yaml.Token
import Std.Data.HashMap

/-!
# Nodes of a YAML document

A stream with exactly one document is read into a tree of nodes. An alias stays a leaf that names
its anchor by a number. It is followed when a reader looks at it (`Place`), so that what nobody asks
for is never expanded.

An anchor is numbered by how many different anchor names were met before it, and an alias stands for
the last node that was given its number.

A node under an anchor is read again for each alias that a reader follows, so a short document can
stand for a very long one. A reading is described by what it looks at (`Outline`). `followings`
counts the aliases that such a reading follows, and a document is `isModest` for it when there are
at most a hundred of them for each of its parts (`Node.size`).
-/

set_option autoImplicit false

namespace Scaffold.Yaml

/-- A node. -/
inductive Node
  | scalar (text : String) (isPlain : Bool) (tag : Option String)
  | list (items : List Node)
  | mapping (entries : List (Node × Node))
  | alias (number : Nat)
  deriving Repr

/-- The node that stands where nothing is written. -/
def Node.blank (tag : Option String) : Node :=
  .scalar "" true tag

/-- What a reader of tokens knows: the tokens left, the handles of tags, the number of each anchor
name, the numbered nodes in the order in which they began, and those that are complete. -/
structure Reading where
  tokens : List Token
  handles : List (String × String)
  names : Std.HashMap String Nat
  begun : Array Nat
  complete : Std.HashMap Nat Node

/-- A reader of tokens. -/
abbrev Reader :=
  StateT Reading Option

namespace Reader

/-- The next token. -/
def peek : Reader (Option Token) := do
  return (← get).tokens.head?

/-- Passes over the next token. -/
def skip : Reader Unit :=
  modify fun reading ↦ { reading with tokens := reading.tokens.tail }

/-- The next token is one of these. -/
def isNext (tokens : List Token) : Reader Bool := do
  return (← peek).any tokens.contains

/-- Passes over the next token if it is this one. -/
def skipIf (token : Token) : Reader Bool := do
  if ← isNext [token] then
    skip
    return true
  else
    return false

/-- Passes over the next token, which must be this one. -/
def expect (token : Token) : Reader Unit := do
  if !(← skipIf token) then failure

/-- Passes over an anchor. -/
def anchor? : Reader (Option String) := do
  match ← peek with
  | some (.anchor name) =>
    skip
    return some name
  | _ => return none

/-- Passes over a tag; its handle must be known. -/
def tag? : Reader (Option String) := do
  match ← peek with
  | some (.tag handle suffix) =>
    skip
    if handle.isEmpty then return some suffix
    else
      match (← get).handles.lookup handle with
      | some stem => return some (stem ++ suffix)
      | none => failure
  | _ => return none

/-- Passes over an anchor and a tag in either order. -/
def properties : Reader (Option String × Option String) := do
  match ← anchor? with
  | some name => return (some name, ← tag?)
  | none =>
    match ← tag? with
    | some tag => return (← anchor?, some tag)
    | none => return (none, none)

/-- Numbers the node that begins here, and gives its place in the order of such nodes. -/
def begin_ (name : String) : Reader Nat := do
  let reading ← get
  let number := reading.names.size
  let place := reading.begun.size
  set { reading with
    names := reading.names.insert name number
    begun := reading.begun.push number }
  return place

/-- Records a complete node. -/
def complete (place : Nat) (node : Node) : Reader Unit :=
  modify fun reading ↦ { reading with complete := reading.complete.insert place node }

/-- Reads what `read` reads and records it under the anchor, if there is one. -/
def anchored (name : Option String) (read : Reader Node) : Reader Node :=
  match name with
  | none => read
  | some name => do
    let place ← begin_ name
    let node ← read
    complete place node
    return node

/-- Reads what `read` reads, or nothing before one of these tokens. -/
def unlessNext (tokens : List Token) (read : Reader Node) : Reader Node := do
  if ← isNext tokens then return Node.blank none else read

/-- The tokens after which a key or value in a block mapping is left out. -/
def blockStops : List Token :=
  [.key, .value, .blockEnd]

/-- Where a node stands: in a block, in a block mapping, or inside brackets. -/
inductive Context
  | block
  | blockEntry
  | flow
  deriving DecidableEq

mutual

/-- Reads a node. -/
def node : Nat → Context → Reader Node
  | 0, _ => failure
  | fuel + 1, context => do
    match ← peek with
    | some (.alias name) =>
      skip
      match (← get).names[name]? with
      | some number => return .alias number
      | none => failure
    | _ =>
      let (name, tag) ← properties
      anchored name do
        match ← peek with
        | some (.scalar text isPlain) =>
          skip
          return .scalar text isPlain tag
        | some .flowSequenceStart =>
          skip
          return .list (← flowItems fuel true)
        | some .flowMappingStart =>
          skip
          return .mapping (← flowEntries fuel true)
        | some .blockSequenceStart =>
          if context = .flow then blankIf name tag
          else
            skip
            return .list (← blockItems fuel)
        | some .blockMappingStart =>
          if context = .flow then blankIf name tag
          else
            skip
            return .mapping (← blockEntries fuel)
        | some .blockEntry =>
          if context = .blockEntry then return .list (← looseItems fuel)
          else blankIf name tag
        | _ => blankIf name tag
where
  /-- A node with an anchor or a tag may be empty. -/
  blankIf (name tag : Option String) : Reader Node :=
    if name.isSome || tag.isSome then return Node.blank tag else failure

/-- Reads the entries of a block sequence up to its end. -/
def blockItems : Nat → Reader (List Node)
  | 0 => failure
  | fuel + 1 => do
    if ← skipIf .blockEntry then
      let item ← unlessNext [.blockEntry, .blockEnd] (node fuel .block)
      return item :: (← blockItems fuel)
    else
      expect .blockEnd
      return []

/-- Reads the entries of a block sequence that is not indented. -/
def looseItems : Nat → Reader (List Node)
  | 0 => failure
  | fuel + 1 => do
    if ← skipIf .blockEntry then
      let item ← unlessNext (.blockEntry :: blockStops) (node fuel .block)
      return item :: (← looseItems fuel)
    else
      return []

/-- Reads the entries of a block mapping up to its end. -/
def blockEntries : Nat → Reader (List (Node × Node))
  | 0 => failure
  | fuel + 1 => do
    if ← skipIf .key then
      let key ← unlessNext blockStops (node fuel .blockEntry)
      let value ← blockValue fuel
      return (key, value) :: (← blockEntries fuel)
    else if ← isNext [.blockEnd] then
      skip
      return []
    else
      failure

/-- Reads the value of a block mapping entry, which may be left out. -/
def blockValue : Nat → Reader Node
  | 0 => failure
  | fuel + 1 => do
    if ← skipIf .value then unlessNext blockStops (node fuel .blockEntry)
    else return Node.blank none

/-- Reads the items of a bracketed sequence up to its end. -/
def flowItems : Nat → (isFirst : Bool) → Reader (List Node)
  | 0, _ => failure
  | fuel + 1, isFirst => do
    if ← skipIf .flowSequenceEnd then return []
    else
      if !isFirst then expect .flowEntry
      if ← skipIf .flowSequenceEnd then return []
      else if ← skipIf .key then
        let item ← flowPair fuel
        return item :: (← flowItems fuel false)
      else
        let item ← node fuel .flow
        return item :: (← flowItems fuel false)

/-- Reads a mapping of one entry inside a bracketed sequence, after its key token. -/
def flowPair : Nat → Reader Node
  | 0 => failure
  | fuel + 1 => do
    let stops := [Token.flowEntry, .flowSequenceEnd]
    if ← isNext (.value :: stops) then
      skip
      return .mapping [(Node.blank none, ← flowPairValue fuel)]
    else
      let key ← node fuel .flow
      return .mapping [(key, ← flowPairValue fuel)]

/-- Reads the value of a single entry inside a bracketed sequence. -/
def flowPairValue : Nat → Reader Node
  | 0 => failure
  | fuel + 1 => do
    if ← skipIf .value then unlessNext [.flowEntry, .flowSequenceEnd] (node fuel .flow)
    else return Node.blank none

/-- Reads the entries of a bracketed mapping up to its end. -/
def flowEntries : Nat → (isFirst : Bool) → Reader (List (Node × Node))
  | 0, _ => failure
  | fuel + 1, isFirst => do
    if ← skipIf .flowMappingEnd then return []
    else
      if !isFirst then expect .flowEntry
      if ← skipIf .flowMappingEnd then return []
      else if ← skipIf .key then
        let stops := [Token.flowEntry, .flowMappingEnd]
        let key ← unlessNext (.value :: stops) (node fuel .flow)
        let value ← flowValue fuel
        return (key, value) :: (← flowEntries fuel false)
      else
        let key ← node fuel .flow
        return (key, Node.blank none) :: (← flowEntries fuel false)

/-- Reads the value of an entry of a bracketed mapping, which may be left out. -/
def flowValue : Nat → Reader Node
  | 0 => failure
  | fuel + 1 => do
    if ← skipIf .value then unlessNext [.flowEntry, .flowMappingEnd] (node fuel .flow)
    else return Node.blank none

end

/-- The handles that are known without a directive. -/
def defaultHandles : List (String × String) :=
  [("!", "!"), ("!!", "tag:yaml.org,2002:")]

/-- Reads directives: at most one version, which must be 1.1 or 1.2, and one stem for each handle.
Gives the handles and whether there was a version. -/
def directives : Nat → (hasVersion : Bool) → List (String × String) →
    Reader (Bool × List (String × String))
  | 0, hasVersion, handles => return (hasVersion, handles)
  | fuel + 1, hasVersion, handles => do
    match ← peek with
    | some (.versionDirective major minor) =>
      if hasVersion || major != 1 || !(minor == 1 || minor == 2) then failure
      else
        skip
        directives fuel true handles
    | some (.tagDirective handle stem) =>
      if (handles.lookup handle).isSome then failure
      else
        skip
        directives fuel hasVersion ((handle, stem) :: handles)
    | _ => return (hasVersion, handles)

/-- Passes over markers of the end of a document. -/
def skipEnds : Nat → Reader Unit
  | 0 => return ()
  | fuel + 1 => do
    if ← skipIf .documentEnd then skipEnds fuel

/-- Reads the only document of a stream. A document with directives starts with a marker. -/
def document (fuel : Nat) : Reader Node := do
  let (hasVersion, handles) ← directives fuel false []
  modify fun reading ↦ { reading with handles := handles ++ defaultHandles }
  let isExplicit ← isNext [.documentStart]
  if isExplicit then skip
  else if hasVersion || !handles.isEmpty then failure
  let root ←
    if isExplicit then
      if (← peek).isNone || (← isNext [.documentStart, .documentEnd]) then pure (Node.blank none)
      else node fuel .block
    else node fuel .block
  skipEnds fuel
  if (← peek).isNone then return root else failure

end Reader

/-- The node that each anchor number stands for. -/
abbrev Anchors := Std.HashMap Nat Node

/-- A node with an alias at its top followed. -/
def Node.follow (anchors : Anchors) : Node → Option Node
  | .alias number => anchors[number]?
  | node => some node

/-- The complete nodes by their numbers; of two with the same number the later one counts. -/
def Reading.anchors (reading : Reading) : Anchors :=
  (List.range reading.begun.size).foldl (fun anchors place ↦
    match reading.begun[place]?, reading.complete[place]? with
    | some number, some node => anchors.insert number node
    | _, _ => anchors) {}

/-- A node in its document, whose aliases it can follow. -/
structure Place where
  anchors : Anchors
  node : Node

namespace Place

/-- The form of a scalar for the readers of records. -/
def formOf (isPlain : Bool) (tag : Option String) : Form :=
  if isPlain then tag.elim .plain .tagged else .quoted

/-- A mapping with a key that is no scalar is no record. -/
def field? (anchors : Anchors) (entry : Node × Node) : Option (String × Place) :=
  match entry.1.follow anchors with
  | some (.scalar text ..) => some (text, ⟨anchors, entry.2⟩)
  | _ => none

instance : Stored Place where
  shape place :=
    match place.node.follow place.anchors with
    | some (.scalar text isPlain tag) => .scalar text (formOf isPlain tag)
    | some (.list items) => .list (items.map (⟨place.anchors, ·⟩))
    | some (.mapping entries) =>
      match entries.mapM (field? place.anchors) with
      | some fields => .fields fields
      | none => .other
    | _ => .other

end Place

/-- A document: the place of its root. -/
structure Document where
  root : Place

/-- The document of a stream that holds exactly one. -/
def Document.ofText? (text : String) : Option Document := do
  let tokens ← Token.ofText? text
  let start : Reading := ⟨tokens, [], {}, #[], {}⟩
  let (root, reading) ← (Reader.document (4 * tokens.length + 4)).run start
  return ⟨⟨reading.anchors, root⟩⟩

/-! ### How often aliases are followed -/

/-- What a reader looks at in a node: its text, its items, or its entries. Of an entry with one of
the given names the value is looked at too. -/
inductive Outline
  | text
  | items (item : Outline)
  | entries
  | field (name : String) (value : Outline) (rest : Outline)

/-- The outline of a record with these fields. -/
def Outline.record (fields : List (String × Outline)) : Outline :=
  fields.foldr (fun (name, value) rest ↦ .field name value rest) .entries

mutual

/-- The number of parts of a node: a scalar and an alias are one, a collection has one more part at
each end. -/
def Node.size : Node → Nat
  | .list items => 2 + itemSizes items
  | .mapping entries => 2 + entrySizes entries
  | _ => 1

/-- The number of parts of some nodes. -/
def itemSizes : List Node → Nat
  | [] => 0
  | node :: nodes => node.size + itemSizes nodes

/-- The number of parts of some entries. -/
def entrySizes : List (Node × Node) → Nat
  | [] => 0
  | (key, value) :: entries => key.size + value.size + entrySizes entries

end

/-- One for an alias. -/
def Node.step : Node → Nat
  | .alias _ => 1
  | _ => 0

/-- The items of a list, also behind an alias. -/
def Node.items (anchors : Anchors) (node : Node) : List Node :=
  match node.follow anchors with
  | some (.list items) => items
  | _ => []

/-- The entries of a mapping, also behind an alias. -/
def Node.entries (anchors : Anchors) (node : Node) : List (Node × Node) :=
  match node.follow anchors with
  | some (.mapping entries) => entries
  | _ => []

/-- The key of an entry is this text. -/
def isNamed (anchors : Anchors) (name : String) (entry : Node × Node) : Bool :=
  match entry.1.follow anchors with
  | some (.scalar text ..) => text == name
  | _ => false

/-- The number of aliases that a reading of the node follows, keys that are aliases included. -/
def followings (anchors : Anchors) : Outline → Node → Nat
  | .text, node => node.step
  | .items item, node =>
    (node.items anchors).foldl (fun count part ↦ count + followings anchors item part) node.step
  | .entries, node =>
    (node.entries anchors).foldl (fun count entry ↦ count + entry.1.step) node.step
  | .field name value rest, node =>
    ((node.entries anchors).filter (isNamed anchors name)).foldl
      (fun count entry ↦ count + followings anchors value entry.2) (followings anchors rest node)

/-- A reading of the document follows at most a hundred aliases for each part of it. -/
def Document.isModest (document : Document) (outline : Outline) : Bool :=
  let root := document.root
  followings root.anchors outline root.node ≤ 100 * root.node.size

end Scaffold.Yaml
