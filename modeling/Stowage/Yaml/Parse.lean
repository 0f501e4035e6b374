import Stowage.Yaml.Node
import Stowage.Yaml.Token.Reading

/-!
From tokens to the nodes of the one document that a text holds.
-/
namespace Stowage.Yaml

/-- The tokens that are left, what handles of tags stand for, and the anchors so far. -/
structure Parser where
  rest : List Token
  handles : List (String × String) := []
  names : List (String × Nat) := []
  anchored : List (Nat × Node) := []
  deriving Inhabited

namespace Parser

/-- Taking tokens; they may turn out to make no document. -/
abbrev Parsing := StateT Parser Option

def peek : Parsing (Option Token) := do
  return (← get).rest.head?

def skip : Parsing Unit :=
  modify fun s => { s with rest := s.rest.tail }

/-- The next token is one of these. -/
def nextIn (tokens : List Token) : Parsing Bool := do
  return ((← peek).map tokens.contains).getD false

def expect (token : Token) : Parsing Unit := do
  if !(← nextIn [token]) then failure
  skip

/-- The tag that a written tag stands for. -/
def resolveTag (written : TagText) : Parsing String := do
  if written.handle == "" then return written.suffix
  let standard := [("!", "!"), ("!!", "tag:yaml.org,2002:")]
  let some expansion := ((← get).handles ++ standard).lookup written.handle | failure
  return expansion ++ written.suffix

/-- The tag and the anchor in front of a node, in any order. -/
def properties : Parsing (Option String × Option String) := do
  match ← peek with
  | some (.anchor name) =>
    skip
    match ← peek with
    | some (.tag written) =>
      skip
      return (some (← resolveTag written), some name)
    | _ => return (none, some name)
  | some (.tag written) =>
    skip
    let tag ← resolveTag written
    match ← peek with
    | some (.anchor name) =>
      skip
      return (some tag, some name)
    | _ => return (some tag, none)
  | _ => return (none, none)

/-- The number of a new anchor is that of the names in use before it. -/
def openAnchor (name : Option String) : Parsing (Option Nat) := do
  match name with
  | none => return none
  | some name =>
    let s ← get
    let anchor := s.names.length
    set { s with names := (name, anchor) :: s.names.filter (·.1 != name) }
    return some anchor

def closeAnchor (anchor : Option Nat) (node : Node) : Parsing Node := do
  if let some anchor := anchor then
    modify fun s => { s with anchored := (anchor, node) :: s.anchored }
  return node

mutual

/-- A node. Block collections can stand only outside flow collections; a sequence that is not
indented can stand only where `indentless` says so. -/
def node (block indentless : Bool) : Nat → Parsing Node
  | 0 => failure
  | fuel + 1 => do
    if let some (.alias name) ← peek then
      skip
      let some anchor := (← get).names.lookup name | failure
      return .alias anchor
    let (tag, name) ← properties
    let anchor ← openAnchor name
    match ← peek with
    | some (.scalar text plain) =>
      skip
      if tag == some "!" then closeAnchor anchor (.scalar none text plain)
      else closeAnchor anchor (.scalar tag text plain)
    | some .flowSequenceStart =>
      skip
      closeAnchor anchor (.sequence tag (← flowItems true fuel))
    | some .flowMappingStart =>
      skip
      closeAnchor anchor (.mapping tag (← flowEntries true fuel))
    | token =>
      if indentless && token == some .blockEntry then
        closeAnchor anchor (.sequence tag (← indentlessItems fuel))
      else if block && token == some .blockSequenceStart then
        skip
        closeAnchor anchor (.sequence tag (← blockItems fuel))
      else if block && token == some .blockMappingStart then
        skip
        closeAnchor anchor (.mapping tag (← blockEntries fuel))
      else if tag.isSome || anchor.isSome then closeAnchor anchor (.scalar tag "" true)
      else failure

/-- A node, unless one of `ends` is next: then nothing is written. -/
def nodeUnless (ends : List Token) (block indentless : Bool) : Nat → Parsing Node
  | 0 => failure
  | fuel + 1 => do
    if ← nextIn ends then return .absent
    node block indentless fuel

/-- The items of a block sequence and its end. -/
def blockItems : Nat → Parsing (List Node)
  | 0 => failure
  | fuel + 1 => do
    if ← nextIn [.blockEnd] then
      skip
      return []
    expect .blockEntry
    let item ← nodeUnless [.blockEntry, .blockEnd] true false fuel
    return item :: (← blockItems fuel)

/-- The items of a sequence that is not indented; it has no end of its own. -/
def indentlessItems : Nat → Parsing (List Node)
  | 0 => failure
  | fuel + 1 => do
    if !(← nextIn [.blockEntry]) then return []
    skip
    let item ← nodeUnless [.blockEntry, .key, .value, .blockEnd] true false fuel
    return item :: (← indentlessItems fuel)

/-- The entries of a block mapping and its end. -/
def blockEntries : Nat → Parsing (List (Node × Node))
  | 0 => failure
  | fuel + 1 => do
    if ← nextIn [.blockEnd] then
      skip
      return []
    expect .key
    let ends := [.key, .value, .blockEnd]
    let key ← nodeUnless ends true true fuel
    let value ← if ← nextIn [.value] then do
        skip
        nodeUnless ends true true fuel
      else pure .absent
    return (key, value) :: (← blockEntries fuel)

/-- The items of a flow sequence and its end; a single pair, whose key has to be
written, stands for a mapping. -/
def flowItems (first : Bool) : Nat → Parsing (List Node)
  | 0 => failure
  | fuel + 1 => do
    if ← nextIn [.flowSequenceEnd] then
      skip
      return []
    if !first then expect .flowEntry
    if ← nextIn [.flowSequenceEnd] then
      skip
      return []
    if ← nextIn [.key] then
      skip
      let key ← node false false fuel
      let value ← if ← nextIn [.value] then do
          skip
          nodeUnless [.flowEntry, .flowSequenceEnd] false false fuel
        else pure .absent
      return .mapping none [(key, value)] :: (← flowItems false fuel)
    let item ← node false false fuel
    return item :: (← flowItems false fuel)

/-- The entries of a flow mapping and its end. -/
def flowEntries (first : Bool) : Nat → Parsing (List (Node × Node))
  | 0 => failure
  | fuel + 1 => do
    if ← nextIn [.flowMappingEnd] then
      skip
      return []
    if !first then expect .flowEntry
    if ← nextIn [.flowMappingEnd] then
      skip
      return []
    if ← nextIn [.key] then
      skip
      let key ← nodeUnless [.value, .flowEntry, .flowMappingEnd] false false fuel
      let value ← if ← nextIn [.value] then do
          skip
          nodeUnless [.flowEntry, .flowMappingEnd] false false fuel
        else pure .absent
      return (key, value) :: (← flowEntries false fuel)
    let key ← node false false fuel
    return (key, .absent) :: (← flowEntries false fuel)

end

/-- The directives in front of a document. There is at most one version, which has to be a known
one, and at most one meaning of a handle. -/
def directives (versioned : Bool) : Nat → Parsing Bool
  | 0 => failure
  | fuel + 1 => do
    match ← peek with
    | some (.version major minor) =>
      if versioned || major != 1 || !(minor == 1 || minor == 2) then failure
      skip
      let _ ← directives true fuel
      return true
    | some (.tagHandle handle expansion) =>
      if ((← get).handles.lookup handle).isSome then failure
      skip
      modify fun s => { s with handles := (handle, expansion) :: s.handles }
      let _ ← directives versioned fuel
      return true
    | _ => return false

/-- The tokens at which a document without content ends. -/
def endsDocument : Token → Bool
  | .version .. | .tagHandle .. | .documentStart | .documentEnd => true
  | _ => false

/-- The only document of a text. -/
def document (fuel : Nat) : Parsing Document := do
  if (← peek).isNone then return { root := .absent }
  let directed ← directives false fuel
  let root ←
    if ← nextIn [.documentStart] then do
      skip
      if ((← peek).map endsDocument).getD true then pure .absent
      else node true false fuel
    else if directed then failure
    else node true false fuel
  let s ← get
  if !s.rest.all (· == .documentEnd) then failure
  return { root, anchored := s.anchored }

end Parser

/-- The document that a text holds, if the text is YAML and holds just one. -/
def Document.ofText? (text : String) : Option Document := do
  let tokens ← Token.ofText? text
  let fuel := 3 * tokens.length + 8
  let (document, _) ← (Parser.document fuel).run { rest := tokens }
  return document

end Stowage.Yaml
