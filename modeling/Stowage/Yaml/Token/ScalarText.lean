import Stowage.Yaml.Token.Cursor

/-!
The texts of scalars: plain ones, quoted ones, and blocks of lines. In all of them but literal
blocks one end of a line reads as a space, and more ends of lines read as one less.
-/
namespace Stowage.Yaml.Cursor

/-- The text between two parts of a scalar that spans lines: one end of a line is a space, more of
them are one less. -/
def folded (first : List Char) (more : List Char) : List Char :=
  if first.head? == some '\n' then (if more.isEmpty then [' '] else more) else first ++ more

/-- Blanks and ends of lines within a scalar: the blanks if there was no end of a line, else the
first end and the others. -/
structure Gap where
  blanks : List Char := []
  first : List Char := []
  more : List Char := []
  /-- Whether the part before the gap ended its line. -/
  broken : Bool := false

def Gap.text (g : Gap) : List Char :=
  if g.broken then folded g.first g.more else g.blanks

/-- Reads on in a gap. A tab in front of `indent` is refused where a line begins. -/
def gap (indent : Int) : Nat → Gap → Reading Gap
  | 0, _ => failure
  | fuel + 1, g => do
    match (← get).rest.head? with
    | none => return g
    | some c =>
      if isSpace c then
        if g.broken && c == '\t' && (← get).column < indent then failure
        skip
        gap indent fuel (if g.broken then g else { g with blanks := g.blanks ++ [c] })
      else if isBreak c then
        let b ← takeBreak
        gap indent fuel
          (if g.broken then { g with more := g.more ++ [b] }
            else { g with blanks := [], first := [b], broken := true })
      else return g

/-- Whether a plain scalar ends here. -/
def plainEnds : Reading Bool := do
  let s ← get
  match s.rest with
  | [] => return true
  | c :: _ =>
    if isSpace c || isBreak c then return true
    else if c == ':' && (← blankOrEnd 1) then return true
    else return s.flowLevel > 0 && (c == ',' || c == '[' || c == ']' || c == '{' || c == '}')

/-- The characters of a plain scalar up to a blank or its end. -/
def plainRun : Nat → List Char → Reading (List Char)
  | 0, _ => failure
  | fuel + 1, run => do
    if ← plainEnds then return run
    if (← get).flowLevel > 0 && (← isAt 0 ':') && (← satisfies 1 [',', '?', '[', ']', '{', '}'].contains)
    then failure
    plainRun fuel (run ++ [← take])

def plainScalar (indent : Int) : Nat → List Char → Gap → Reading (List Char)
  | 0, _, _ => failure
  | fuel + 1, text, before => do
    let length := (← get).rest.length
    let stops := (← atMarker '-') || (← atMarker '.') || (← isAt 0 '#')
    let run ← if stops then pure [] else plainRun (length + 1) []
    let text := if run.isEmpty then text else text ++ before.text ++ run
    let goesOn := !stops && (← satisfies 0 fun c => isSpace c || isBreak c)
    if !goesOn then
      if run.isEmpty && before.broken then allowSimpleKey true
      return text
    let after ← gap indent (length + 1) (if run.isEmpty then before else {})
    let s ← get
    if s.flowLevel == 0 && s.column < indent then
      if after.broken then allowSimpleKey true
      return text
    plainScalar indent fuel text after

def hexValue (chars : List Char) : Option Nat :=
  chars.foldlM (fun acc c =>
    if '0' ≤ c && c ≤ '9' then some (acc * 16 + (c.toNat - '0'.toNat))
    else if 'a' ≤ c && c ≤ 'f' then some (acc * 16 + (c.toNat - 'a'.toNat + 10))
    else if 'A' ≤ c && c ≤ 'F' then some (acc * 16 + (c.toNat - 'A'.toNat + 10))
    else none) 0

/-- The character of a code in `n` hexadecimal digits. -/
def coded (n : Nat) : Reading Char := do
  let s ← get
  let digits := s.rest.take n
  if digits.length < n then failure
  let some code := hexValue digits | failure
  if !code.isValidChar then failure
  set { s with rest := s.rest.drop n, index := s.index + n, column := s.column + n }
  return Char.ofNat code

/-- The character that an escape stands for, the backslash being passed. -/
def escape : Reading Char := do
  match ← take with
  | '0' => return '\x00'
  | 'a' => return '\x07'
  | 'b' => return '\x08'
  | 't' | '\t' => return '\t'
  | 'n' => return '\n'
  | 'v' => return '\x0b'
  | 'f' => return '\x0c'
  | 'r' => return '\r'
  | 'e' => return '\x1b'
  | ' ' => return ' '
  | '"' => return '"'
  | '\'' => return '\''
  | '/' => return '/'
  | '\\' => return '\\'
  | 'N' => return '\u0085'
  | '_' => return '\u00A0'
  | 'L' => return '\u2028'
  | 'P' => return '\u2029'
  | 'x' => coded 2
  | 'u' => coded 4
  | 'U' => coded 8
  | _ => failure

/-- The text of a quoted scalar, the opening quote being passed. -/
def quotedScalar (single : Bool) : Nat → List Char → Reading (List Char)
  | 0, _ => failure
  | fuel + 1, text => do
    if (← atMarker '-') || (← atMarker '.') then failure
    let s ← get
    match s.rest with
    | [] => failure
    | c :: rest =>
      if single && c == '\'' && rest.head? == some '\'' then
        skip
        skip
        quotedScalar single fuel (text ++ ['\''])
      else if c == (if single then '\'' else '"') then
        skip
        return text
      else if !single && c == '\\' && (rest.head?.map isBreak).getD false then
        skip
        let _ ← takeBreak
        let g ← gap (-1) (rest.length + 1) { broken := true }
        quotedScalar single fuel (text ++ g.text)
      else if !single && c == '\\' then
        skip
        quotedScalar single fuel (text ++ [← escape])
      else if isSpace c || isBreak c then
        let g ← gap (-1) (rest.length + 2) {}
        quotedScalar single fuel (text ++ g.text)
      else
        skip
        quotedScalar single fuel (text ++ [c])

/-- Empty lines of a block scalar and the indentation after them. Where no indentation is given
yet, the deepest one found counts. -/
def blockBreaks (given : Option Nat) : Nat → Nat → List Char → Reading (Nat × List Char)
  | 0, _, _ => failure
  | fuel + 1, deepest, breaks => do
    let column := (← get).column
    let spaces := (← get).rest.takeWhile (· == ' ')
    let wanted :=
      match given with
      | some indent => spaces.take (indent - column)
      | none => spaces
    let _ ← wanted.mapM fun _ => skip
    let column := (← get).column
    let deepest := max deepest column
    let short := (given.map fun indent => decide (column < indent)).getD true
    if short && (← isAt 0 '\t') then failure
    if ← satisfies 0 isBreak then
      blockBreaks given fuel deepest (breaks ++ [← takeBreak])
    else return (deepest, breaks)

/-- The lines of a block scalar at `indent`. `first` and `more` are the ends of lines since the
last line with text, which began with a blank if `blankBefore` holds. -/
def blockLines (literal : Bool) (indent : Nat) :
    Nat → List Char → List Char → List Char → Bool → Reading (List Char × List Char × List Char)
  | 0, _, _, _, _ => failure
  | fuel + 1, text, first, more, blankBefore => do
    let s ← get
    if s.column != indent || s.rest.isEmpty then return (text, first, more)
    let blank ← satisfies 0 isSpace
    let joint :=
      if !literal && first.head? == some '\n' && !blankBefore && !blank then
        (if more.isEmpty then [' '] else [])
      else first
    let line ← takeWhile (!isBreak ·)
    let text := text ++ joint ++ more ++ line
    let first ← if ← atEnd then pure [] else pure [← takeBreak]
    let (_, more) ← blockBreaks (some indent) (s.rest.length + 1) 0 []
    blockLines literal indent fuel text first more blank

/-- What stands behind the indicator of a block scalar: how the end is treated (dropped, cut to one
end of line, kept), and how much deeper the text is indented. -/
def blockHeader : Reading (Option Bool × Option Nat) := do
  let chomp : Reading (Option Bool) := do
    if ← isAt 0 '+' then do skip; return some true
    else if ← isAt 0 '-' then do skip; return some false
    else return none
  let deeper : Reading (Option Nat) := do
    match ← peek 0 with
    | some c =>
      if c == '0' then failure
      else if '1' ≤ c && c ≤ '9' then do skip; return some (c.toNat - '0'.toNat)
      else return none
    | none => return none
  let before ← chomp
  let increment ← deeper
  let keep ← if before.isSome then pure before else chomp
  return (keep, increment)

def blockScalar (literal : Bool) : Reading String := do
  skip
  let (keep, increment) ← blockHeader
  let _ ← takeWhile isSpace
  if ← isAt 0 '#' then
    let _ ← takeWhile (!isBreak ·)
  if !(← atEnd) then
    if !(← satisfies 0 isBreak) then failure
    let _ ← takeBreak
  let s ← get
  let fuel := s.rest.length + 2
  let base := max s.indent 0
  let given := increment.map fun n => base.toNat + n
  let (deepest, breaks) ← blockBreaks given fuel 0 []
  let indent := given.getD (max deepest (max (s.indent + 1).toNat 1))
  let (text, first, more) ← blockLines literal indent fuel [] [] breaks false
  let ending :=
    match keep with
    | some false => []
    | none => first
    | some true => first ++ more
  return String.ofList (text ++ ending)

end Stowage.Yaml.Cursor
