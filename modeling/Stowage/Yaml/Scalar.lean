import Stowage.Decimal.Shortest
import Stowage.Text
import Stowage.Yaml.Value

/-!
What a plain scalar says: nothing, a truth value, a number, or else its text.
-/
namespace Stowage.Yaml.Scalar

def isNull (s : String) : Bool :=
  ["null", "Null", "NULL", "~"].contains s

def readBool? (s : String) : Option Bool :=
  if ["true", "True", "TRUE"].contains s then some true
  else if ["false", "False", "FALSE"].contains s then some false
  else none

/-- The value of a digit in bases up to 36. -/
def digitValue? (c : Char) : Option Nat :=
  let n := c.toNat
  if '0' ≤ c ∧ c ≤ '9' then some (n - '0'.toNat)
  else if 'a' ≤ c ∧ c ≤ 'z' then some (n - 'a'.toNat + 10)
  else if 'A' ≤ c ∧ c ≤ 'Z' then some (n - 'A'.toNat + 10)
  else none

/-- One or more digits of a base and nothing else. -/
def readBase? (base : Nat) (cs : List Char) : Option Nat :=
  if cs.isEmpty then none
  else cs.foldlM (fun n c => do
    let digit ← digitValue? c
    if digit < base then some (n * base + digit) else none) 0

/-- A sign and what follows it. -/
def splitSign : List Char → Option Char × List Char
  | '+' :: rest => (some '+', rest)
  | '-' :: rest => (some '-', rest)
  | cs => (none, cs)

/-- Digits of which the first is a zero that no number needs: such a row is a text. -/
def hasIdleZero (cs : List Char) : Bool :=
  let digits := (splitSign cs).2
  digits.length > 1 && digits.head? == some '0' && digits.all Char.isDigit

/-- A whole number, in base 16, 8 or 2 behind `0x`, `0o` or `0b`. -/
def readInt? (cs : List Char) : Option Int := do
  let (sign, magnitude) := splitSign cs
  let n ← match magnitude with
    | '0' :: 'x' :: digits => readBase? 16 digits
    | '0' :: 'o' :: digits => readBase? 8 digits
    | '0' :: 'b' :: digits => readBase? 2 digits
    | digits => if hasIdleZero cs then none else readBase? 10 digits
  return if sign == some '-' then -(n : Int) else n

/-- The whole numbers that are read as such. -/
def holdsInt (n : Int) : Bool :=
  -0x8000000000000000 ≤ n && n < 0x10000000000000000

/-- Whole numbers that are refused; those beyond them are read as numbers with a fraction. -/
def refusesInt (n : Int) : Bool :=
  !holdsInt n && -0x80000000000000000000000000000000 ≤ n &&
    n < 0x100000000000000000000000000000000

/-- The digits of a decimal and its exponent: digits with a point among or around them, and perhaps
an exponent. -/
def readDecimal? (cs : List Char) : Option (Nat × Int) := do
  let whole := cs.takeWhile Char.isDigit
  let rest := cs.dropWhile Char.isDigit
  let (fraction, rest) := match rest with
    | '.' :: rest => (rest.takeWhile Char.isDigit, rest.dropWhile Char.isDigit)
    | _ => ([], rest)
  let digits ← Text.readNat? (whole ++ fraction)
  let exponent ← match rest with
    | [] => some 0
    | e :: rest =>
      if e == 'e' || e == 'E' then
        let (sign, exponent) := splitSign rest
        (Text.readNat? exponent).map fun n => if sign == some '-' then -(n : Int) else n
      else none
  return (digits, exponent - fraction.length)

/-- A number with a fraction is shown with at least one digit on each side of the point while the
point is within sixteen digits behind the first one, or within five in front of it; else one digit
stands before the point and an exponent follows. -/
def showDecimal (digits : Nat) (place : Int) : String :=
  let shown := Nat.toDigits 10 digits
  let length : Int := shown.length
  let point := length + place
  let zeros (n : Int) := List.replicate n.toNat '0'
  String.ofList <|
    if 0 ≤ place && point ≤ 16 then shown ++ zeros place ++ ['.', '0']
    else if 0 < point && point ≤ 16 then shown.take point.toNat ++ '.' :: shown.drop point.toNat
    else if -5 < point && point ≤ 0 then '0' :: '.' :: zeros (-point) ++ shown
    else
      let exponent := 'e' :: (Text.ofInt (point - 1)).toList
      match shown with
      | first :: second :: more => first :: '.' :: second :: more ++ exponent
      | _ => shown ++ exponent

/-- The text that a number with a fraction is shown as, if this is one. -/
def readFloat? (cs : List Char) : Option String := do
  let (sign, magnitude) := splitSign cs
  let minus := if sign == some '-' then "-" else ""
  if [".inf", ".Inf", ".INF"].contains (String.ofList magnitude) then return minus ++ ".inf"
  if [".nan", ".NaN", ".NAN"].contains (String.ofList cs) then return ".nan"
  let (digits, exponent) ← readDecimal? magnitude
  let (digits, place) := (← Decimal.Double.ofDecimal digits exponent).shortest
  return minus ++ showDecimal digits place

/-- The value of a plain scalar, if it is not refused. -/
def valueOf? (s : String) : Option Value :=
  let cs := s.toList
  if s == "" || isNull s then some .null
  else match readBool? s with
    | some b => some (.bool b)
    | none =>
      let number := readInt? cs
      match number.filter holdsInt with
      | some n => some (.int n)
      | none =>
        if number.any refusesInt then none
        else if hasIdleZero cs then some (.str s)
        else some (((readFloat? cs).map .float).getD (.str s))

end Stowage.Yaml.Scalar
