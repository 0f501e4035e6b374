import Stowage.Yaml.Token

/-!
A cursor in a YAML text: what is left to read, the tokens so far, and the two things that decide
which tokens come next. One is the indentation, which opens and closes block collections; the other
is the places where a simple key may have begun, since only the colon after a simple key tells it.
-/
namespace Stowage.Yaml

/-- A place where a simple key may have begun. -/
structure SimpleKey where
  possible : Bool := false
  required : Bool := false
  /-- How many tokens there were before it. -/
  token : Nat := 0
  index : Nat := 0
  line : Nat := 0
  column : Nat := 0
  deriving Repr, Inhabited

/-- What is left of the text, and what was read so far. -/
structure Cursor where
  rest : List Char
  index : Nat := 0
  line : Nat := 0
  column : Nat := 0
  tokens : Array Token := #[]
  flowLevel : Nat := 0
  /-- The indentation of the innermost block collection, and of those around it. -/
  indent : Int := -1
  outerIndents : List Int := []
  simpleKeyAllowed : Bool := true
  /-- The simple keys of this flow level and of those around it. -/
  simpleKey : SimpleKey := {}
  outerKeys : List SimpleKey := []
  deriving Inhabited

namespace Cursor

/-- Reading on from a cursor; the text may turn out to be no YAML. -/
abbrev Reading := StateT Cursor Option

def isBreak (c : Char) : Bool :=
  c == '\n' || c == '\r' || c == '\u0085' || c == '\u2028' || c == '\u2029'

def isSpace (c : Char) : Bool :=
  c == ' ' || c == '\t'

/-- The characters that may stand in a text at all. -/
def isAllowed (c : Char) : Bool :=
  c == '\t' || c == '\n' || c == '\r' || (' ' ≤ c && c ≤ '~') || c == '\u0085' ||
    ('\u00A0' ≤ c && c ≤ '\uFFFD' && c != '\uFEFF') || 0x10000 ≤ c.toNat

/-- The characters of names and handles. -/
def isNameChar (c : Char) : Bool :=
  c.isAlphanum || c == '-' || c == '_'

/-! ### Looking ahead -/

def peek (n : Nat) : Reading (Option Char) := do
  return (← get).rest[n]?

/-- The character at `n` is `c`. -/
def isAt (n : Nat) (c : Char) : Reading Bool := do
  return (← peek n) == some c

def satisfies (n : Nat) (p : Char → Bool) : Reading Bool := do
  return ((← peek n).map p).getD false

/-- The text ends at `n`, or there is a blank or the end of a line. -/
def blankOrEnd (n : Nat) : Reading Bool := do
  return ((← peek n).map fun c => isSpace c || isBreak c).getD true

def atEnd : Reading Bool := do
  return (← get).rest.isEmpty

/-- Three equal characters at the start of a line, with nothing right behind them. -/
def atMarker (c : Char) : Reading Bool := do
  let s ← get
  return s.column == 0 && s.rest.take 3 == [c, c, c] && (← blankOrEnd 3)

/-! ### Moving on -/

/-- Passes over one character within a line. -/
def skip : Reading Unit :=
  modify fun s => { s with rest := s.rest.tail, index := s.index + 1, column := s.column + 1 }

def take : Reading Char := do
  let some c := (← get).rest.head? | failure
  skip
  return c

/-- Passes over the end of a line and gives it as one character. -/
def takeBreak : Reading Char := do
  let s ← get
  match s.rest with
  | '\r' :: '\n' :: rest =>
    set { s with rest, index := s.index + 2, line := s.line + 1, column := 0 }
    return '\n'
  | c :: rest =>
    set { s with rest, index := s.index + 1, line := s.line + 1, column := 0 }
    return if c == '\u2028' || c == '\u2029' then c else '\n'
  | [] => failure

/-- A row of characters within a line. -/
def takeWhile (p : Char → Bool) : Reading (List Char) := do
  let s ← get
  let run := s.rest.takeWhile p
  set { s with
    rest := s.rest.drop run.length
    index := s.index + run.length
    column := s.column + run.length }
  return run

/-- Passes over blanks, comments and ends of lines. -/
def toNextToken : Nat → Reading Unit
  | 0 => failure
  | fuel + 1 => do
    let s ← get
    match s.rest with
    | [] => return
    | c :: _ =>
      if c == ' ' || (c == '\t' && (s.flowLevel > 0 || !s.simpleKeyAllowed)) then
        skip
        toNextToken fuel
      else if c == '#' then
        let _ ← takeWhile (!isBreak ·)
        toNextToken fuel
      else if isBreak c then
        let _ ← takeBreak
        if s.flowLevel == 0 then
          modify fun s => { s with simpleKeyAllowed := true }
        toNextToken fuel
      else return

/-! ### Tokens and simple keys -/

def emit (token : Token) : Reading Unit :=
  modify fun s => { s with tokens := s.tokens.push token }

/-- Puts a token in front of those from `place` on. -/
def insertToken (place : Nat) (token : Token) : Reading Unit :=
  modify fun s => { s with tokens := s.tokens.insertIdxIfInBounds place token }

def allowSimpleKey (allowed : Bool) : Reading Unit :=
  modify fun s => { s with simpleKeyAllowed := allowed }

/-- A simple key ends on its line, within 1024 characters; one that has to be a key cannot be
given up. -/
def dropStale (s : Cursor) (key : SimpleKey) : Option SimpleKey :=
  if key.possible && (key.line < s.line || key.index + 1024 < s.index) then
    if key.required then none else some { key with possible := false }
  else some key

def dropStaleKeys : Reading Unit := do
  let s ← get
  let some simpleKey := dropStale s s.simpleKey | failure
  let some outerKeys := s.outerKeys.mapM (dropStale s) | failure
  set { s with simpleKey, outerKeys }

def removeSimpleKey : Reading Unit := do
  let s ← get
  if s.simpleKey.possible && s.simpleKey.required then failure
  set { s with simpleKey := { s.simpleKey with possible := false } }

def saveSimpleKey : Reading Unit := do
  let s ← get
  if s.simpleKeyAllowed then
    removeSimpleKey
    modify fun s => { s with simpleKey := {
      possible := true
      required := s.flowLevel == 0 && s.indent == s.column
      token := s.tokens.size
      index := s.index
      line := s.line
      column := s.column } }

/-! ### Indentation -/

/-- Closes the block collections that are indented deeper than `column`. -/
def unroll (column : Int) : Reading Unit := do
  let s ← get
  if s.flowLevel == 0 then
    let around := s.indent :: s.outerIndents
    let closed := around.takeWhile (· > column)
    let rest := around.dropWhile (· > column)
    set { s with
      tokens := s.tokens ++ Array.replicate closed.length Token.blockEnd
      indent := rest.headD (-1)
      outerIndents := rest.tail }

/-- Opens a block collection if `column` is deeper than the one at hand. -/
def roll (column : Nat) (place : Option Nat) (token : Token) : Reading Unit := do
  let s ← get
  if s.flowLevel == 0 && s.indent < column then
    set { s with indent := column, outerIndents := s.indent :: s.outerIndents }
    match place with
    | some place => insertToken place token
    | none => emit token

end Cursor
end Stowage.Yaml
