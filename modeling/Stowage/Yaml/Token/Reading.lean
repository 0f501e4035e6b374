import Stowage.Yaml.Token.Tag

/-!
Cutting a whole YAML text into its tokens.
-/
namespace Stowage.Yaml
namespace Cursor

/-- Whether a plain scalar can begin here. -/
def plainBegins : Reading Bool := do
  let some c ← peek 0 | return false
  let indicators := ['-', '?', ':', ',', '[', ']', '{', '}', '#', '&', '*', '!', '|', '>', '\'',
    '\"', '%', '@', '\x60']
  if !(isSpace c || isBreak c || indicators.contains c) then return true
  if c == '-' then return !(← satisfies 1 isSpace)
  return (← get).flowLevel == 0 && (c == '?' || c == ':') && !(← blankOrEnd 1)

def flowStart (token : Token) : Reading Unit := do
  saveSimpleKey
  modify fun s => { s with
    flowLevel := s.flowLevel + 1
    outerKeys := s.simpleKey :: s.outerKeys
    simpleKey := {} }
  allowSimpleKey true
  skip
  emit token

def flowEnd (token : Token) : Reading Unit := do
  removeSimpleKey
  modify fun s =>
    if s.flowLevel == 0 then s
    else { s with
      flowLevel := s.flowLevel - 1
      simpleKey := s.outerKeys.headD {}
      outerKeys := s.outerKeys.tail }
  allowSimpleKey false
  skip
  emit token

/-- An indicator that opens a block collection where there is none yet. -/
def blockIndicator (collection token : Token) : Reading Unit := do
  let s ← get
  if s.flowLevel == 0 then
    if !s.simpleKeyAllowed then failure
    roll s.column none collection
  removeSimpleKey
  allowSimpleKey (token == .blockEntry || s.flowLevel == 0)
  skip
  emit token

/-- The colon before a value. What was read since a simple key began is its key. -/
def valueIndicator : Reading Unit := do
  let s ← get
  if s.simpleKey.possible then
    insertToken s.simpleKey.token .key
    roll s.simpleKey.column (some s.simpleKey.token) .blockMappingStart
    modify fun s => { s with simpleKey := { s.simpleKey with possible := false } }
    allowSimpleKey false
  else
    if s.flowLevel == 0 then
      if !s.simpleKeyAllowed then failure
      roll s.column none .blockMappingStart
    allowSimpleKey (s.flowLevel == 0)
  skip
  emit .value

/-- What stands outside all collections. -/
def marker (token : Reading Token) : Reading Unit := do
  unroll (-1)
  removeSimpleKey
  allowSimpleKey false
  emit (← token)

/-- Three equal characters of a marker. -/
def markerToken (token : Token) : Reading Token := do
  skip
  skip
  skip
  return token

/-- What may be the start of a simple key. -/
def keyStart (token : Reading Token) : Reading Unit := do
  saveSimpleKey
  allowSimpleKey false
  emit (← token)

def quotedToken (single : Bool) (fuel : Nat) : Reading Token := do
  skip
  return .scalar (String.ofList (← quotedScalar single fuel [])) false

def plainToken (fuel : Nat) : Reading Token := do
  let indent := (← get).indent + 1
  return .scalar (String.ofList (← plainScalar indent fuel [] {})) true

/-- Reads the next token; the answer tells whether there was one. -/
def next : Reading Bool := do
  let fuel := (← get).rest.length + 2
  toNextToken fuel
  dropStaleKeys
  unroll (← get).column
  match ← peek 0 with
  | none =>
    unroll (-1)
    removeSimpleKey
    return false
  | some c =>
    let s ← get
    let flow := s.flowLevel > 0
    if s.column == 0 && c == '%' then marker directive
    else if ← atMarker '-' then marker (markerToken .documentStart)
    else if ← atMarker '.' then marker (markerToken .documentEnd)
    else if c == '[' then flowStart .flowSequenceStart
    else if c == '{' then flowStart .flowMappingStart
    else if c == ']' then flowEnd .flowSequenceEnd
    else if c == '}' then flowEnd .flowMappingEnd
    else if c == ',' then
      removeSimpleKey
      allowSimpleKey true
      skip
      emit .flowEntry
    else if c == '-' && (← blankOrEnd 1) then blockIndicator .blockSequenceStart .blockEntry
    else if c == '?' && (flow || (← blankOrEnd 1)) then blockIndicator .blockMappingStart .key
    else if c == ':' && (flow || (← blankOrEnd 1)) then valueIndicator
    else if c == '*' then keyStart (return .alias (← anchorName))
    else if c == '&' then keyStart (return .anchor (← anchorName))
    else if c == '!' then keyStart (return .tag (← tagText))
    else if (c == '|' || c == '>') && !flow then
      removeSimpleKey
      allowSimpleKey true
      emit (.scalar (← blockScalar (c == '|')) false)
    else if c == '\'' || c == '\"' then keyStart (quotedToken (c == '\'') fuel)
    else if ← plainBegins then keyStart (plainToken fuel)
    else failure
    return true

/-- Reads all tokens. -/
def readAll : Nat → Reading Unit
  | 0 => failure
  | fuel + 1 => do
    if ← next then readAll fuel

end Cursor

/-- The tokens of a text, if it can be cut into tokens. Every token but those of indentation takes
a character, so there are no more rounds than characters. -/
def Token.ofText? (text : String) : Option (List Token) := do
  let chars :=
    match text.toList with
    | '\uFEFF' :: rest => rest
    | chars => chars
  if !chars.all Cursor.isAllowed then none
  let ((), s) ← (Cursor.readAll (chars.length + 2)).run { rest := chars }
  return s.tokens.toList

end Stowage.Yaml
