/-!
Numbers of 53 binary digits and a bounded exponent, and the one nearest to a decimal.
-/
namespace Stowage.Decimal

/-- A positive quotient of whole numbers, or zero. -/
structure Ratio where
  num : Nat
  den : Nat
  deriving Repr, Inhabited

namespace Ratio

/-- The number `n * base ^ e`. -/
def scaled (n base : Nat) (e : Int) : Ratio :=
  if 0 ≤ e then ⟨n * Nat.pow base e.toNat, 1⟩ else ⟨n, Nat.pow base (-e).toNat⟩

def ble (a b : Ratio) : Bool :=
  decide (a.num * b.den ≤ b.num * a.den)

def blt (a b : Ratio) : Bool :=
  !b.ble a

/-- The whole number nearest to `num / den`; a half goes to the even neighbour. -/
def round (a : Ratio) : Nat :=
  let quotient := a.num / a.den
  let twice := 2 * (a.num % a.den)
  if twice > a.den || (twice == a.den && quotient % 2 == 1) then quotient + 1 else quotient

end Ratio

/-- The number `mantissa * 2 ^ exponent`. The mantissa is below `2 ^ 53`, and it is at least
`2 ^ 52` unless the exponent is the least one. -/
structure Double where
  mantissa : Nat
  exponent : Int
  deriving Repr, Inhabited, DecidableEq

namespace Double

def leastExponent : Int := -1074
def greatestExponent : Int := 971

def value (d : Double) : Ratio :=
  .scaled d.mantissa 2 d.exponent

/-- The mantissa of `a` for an exponent, rounded. -/
def mantissaAt (a : Ratio) (exponent : Int) : Nat :=
  let unit := Ratio.scaled 1 2 exponent
  Ratio.round ⟨a.num * unit.den, a.den * unit.num⟩

/-- The exponent at which `a` has 53 binary digits, or the least one. -/
def exponentOf (a : Ratio) : Int :=
  let estimate : Int := (a.num.log2 : Int) - a.den.log2 - 53
  let fits := Ratio.blt a (.scaled (Nat.pow 2 53) 2 estimate)
  max (if fits then estimate else estimate + 1) leastExponent

/-- The nearest number of this kind, a tie going to the even mantissa; none if that would be beyond
the greatest exponent. -/
def ofRatio (a : Ratio) : Option Double :=
  if a.num == 0 then some ⟨0, leastExponent⟩
  else
    let exponent := exponentOf a
    let mantissa := mantissaAt a exponent
    let d : Double :=
      if mantissa == Nat.pow 2 53 then ⟨Nat.pow 2 52, exponent + 1⟩ else ⟨mantissa, exponent⟩
    if d.exponent ≤ greatestExponent then some d else none

/-- The number nearest to `digits * 10 ^ exponent`. What has no digit above the 400th place behind
the point is zero, and what has one above the 400th place before it is too great. -/
def ofDecimal (digits : Nat) (exponent : Int) : Option Double :=
  let places : Int := (Nat.toDigits 10 digits).length + exponent
  if digits == 0 || places < -400 then some ⟨0, leastExponent⟩
  else if places > 400 then none
  else ofRatio (.scaled digits 10 exponent)

end Double
end Stowage.Decimal
