import Stowage.Text
import Stowage.Yaml.Token.ScalarText

/-!
Tags, the names of anchors, and directives.
-/
namespace Stowage.Yaml.Cursor

/-- The name of an anchor or alias, the indicator being next. -/
def anchorName : Reading String := do
  skip
  let chars ← takeWhile isNameChar
  if chars.isEmpty then failure
  let ends := ['?', ':', ',', ']', '}', '%', '@', '\x60']
  if !(← blankOrEnd 0) && !(← satisfies 0 ends.contains) then failure
  return String.ofList chars

/-- A handle: an exclamation mark, and perhaps a name between two of them. -/
def handle : Reading (List Char) := do
  if !(← isAt 0 '!') then failure
  skip
  let chars ← takeWhile isNameChar
  if ← isAt 0 '!' then
    skip
    return '!' :: chars ++ ['!']
  return '!' :: chars

def isTagChar (c : Char) : Bool :=
  isNameChar c || [';', '/', '?', ':', '@', '&', '=', '+', '$', '.', '!', '~', '*', '\'', '(',
    ')'].contains c

/-- How many bytes a character has that begins with this one. -/
def encodedSize (first : Nat) : Option Nat :=
  if first < 0x80 then some 1
  else if 0xC0 ≤ first ∧ first < 0xE0 then some 2
  else if 0xE0 ≤ first ∧ first < 0xF0 then some 3
  else if 0xF0 ≤ first ∧ first < 0xF8 then some 4
  else none

/-- A byte in two hexadecimal digits behind a percent sign. -/
def percentByte : Reading Nat := do
  if !(← isAt 0 '%') then failure
  skip
  let digits := (← get).rest.take 2
  if digits.length < 2 then failure
  let some byte := hexValue digits | failure
  skip
  skip
  return byte

/-- A character by the bytes of its encoding. -/
def percentCoded : Reading Char := do
  let first ← percentByte
  let some size := encodedSize first | failure
  let others ← (List.range (size - 1)).mapM fun _ => percentByte
  let bytes := (first :: others).map UInt8.ofNat
  let some text := String.fromUTF8? (ByteArray.mk bytes.toArray) | failure
  let some c := text.toList.head? | failure
  return c

/-- What follows a handle. Only in full tags and in directives may there be commas and brackets. -/
def tagChars (full : Bool) : Nat → List Char → Reading (List Char)
  | 0, _ => failure
  | fuel + 1, chars => do
    match ← peek 0 with
    | some '%' => tagChars full fuel (chars ++ [← percentCoded])
    | some c =>
      if isTagChar c || (full && [',', '[', ']'].contains c) then
        skip
        tagChars full fuel (chars ++ [c])
      else return chars
    | none => return chars

def tagText : Reading TagText := do
  let fuel := (← get).rest.length + 1
  let text ← if ← isAt 1 '<' then do
      skip
      skip
      let suffix ← tagChars true fuel []
      if suffix.isEmpty || !(← isAt 0 '>') then failure
      skip
      pure ⟨"", String.ofList suffix⟩
    else do
      let begun ← handle
      if begun.length > 1 && begun.getLast? == some '!' then do
        let suffix ← tagChars false fuel []
        if suffix.isEmpty then failure
        pure ⟨String.ofList begun, String.ofList suffix⟩
      else do
        let suffix ← tagChars false fuel begun.tail
        pure (if suffix.isEmpty then ⟨"", "!"⟩ else ⟨"!", String.ofList suffix⟩)
  let s ← get
  if !((s.flowLevel > 0 && (← isAt 0 ',')) || (← blankOrEnd 0)) then failure
  return text

/-- A number of a version, of at most nine digits. -/
def versionNumber : Reading Nat := do
  let digits ← takeWhile Char.isDigit
  if digits.length > 9 then failure
  let some n := Text.readNat? digits | failure
  return n

/-- A directive, the percent sign being next. -/
def directive : Reading Token := do
  skip
  let name ← takeWhile isNameChar
  if !(← blankOrEnd 0) then failure
  let _ ← takeWhile isSpace
  let token ← if name == "YAML".toList then do
      let major ← versionNumber
      if !(← isAt 0 '.') then failure
      skip
      pure (Token.version major (← versionNumber))
    else if name == "TAG".toList then do
      let begun ← handle
      if begun.length > 1 && begun.getLast? != some '!' then failure
      if !(← satisfies 0 isSpace) then failure
      let _ ← takeWhile isSpace
      let expansion ← tagChars true ((← get).rest.length + 1) []
      if expansion.isEmpty || !(← blankOrEnd 0) then failure
      pure (Token.tagHandle (String.ofList begun) (String.ofList expansion))
    else failure
  let _ ← takeWhile isSpace
  if ← isAt 0 '#' then
    let _ ← takeWhile (!isBreak ·)
  if !(← atEnd) then
    let _ ← if ← satisfies 0 isBreak then takeBreak else failure
  return token

end Stowage.Yaml.Cursor
