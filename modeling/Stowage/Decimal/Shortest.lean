import Stowage.Decimal.Double

/-!
The fewest decimal digits that read back as the same double.
-/
namespace Stowage.Decimal.Double

/-- The least and the greatest number that read as `d`. Whether they themselves do depends on
whether the mantissa is even. -/
def interval (d : Double) : Ratio × Ratio :=
  let lowest := d.mantissa == Nat.pow 2 52 && d.exponent != leastExponent
  (.scaled (4 * d.mantissa - (if lowest then 1 else 2)) 2 (d.exponent - 2),
    .scaled (4 * d.mantissa + 2) 2 (d.exponent - 2))

/-- Whether a number reads as `d`. -/
def readsAs (d : Double) (a : Ratio) : Bool :=
  let (low, high) := d.interval
  if d.mantissa % 2 == 0 then low.ble a && a.ble high else low.blt a && a.blt high

/-- The place of the first digit, counted from the point: 0 for units, -1 for tenths. It is searched
for from `place` downwards. -/
def firstPlace (a : Ratio) : Nat → Int → Int
  | 0, place => place
  | fuel + 1, place =>
    if (Ratio.scaled 1 10 place).ble a then place else firstPlace a fuel (place - 1)

/-- Of the two neighbours of `d` on the grid of `10 ^ place`, the nearer one that reads as `d`. Of
two that are equally near the even one is taken. -/
def onGrid (d : Double) (place : Int) : Option Nat :=
  let unit := Ratio.scaled 1 10 place
  let v := d.value
  let scaled : Ratio := ⟨v.num * unit.den, v.den * unit.num⟩
  let below := scaled.num / scaled.den
  let nearest := scaled.round
  let other := if nearest == below then below + 1 else below
  if d.readsAs (.scaled nearest 10 place) then some nearest
  else if d.readsAs (.scaled other 10 place) then some other
  else none

/-- Digits and the place of the last one, without zeros at the end. -/
def stripZeros : Nat → Nat → Int → Nat × Int
  | 0, digits, place => (digits, place)
  | fuel + 1, digits, place =>
    if digits % 10 == 0 then stripZeros fuel (digits / 10) (place + 1) else (digits, place)

/-- The fewest digits that read as `d`, and the place of the last one. Seventeen always do. -/
def shortest (d : Double) : Nat × Int :=
  if d.mantissa == 0 then (0, 0)
  else
    let first := firstPlace d.value 700 310
    let grids := (List.range 17).map fun n => first - Int.ofNat n
    match grids.findSome? fun place => (d.onGrid place).map fun digits => (digits, place) with
    | some (digits, place) => stripZeros 20 digits place
    | none => (d.mantissa, 0)

end Stowage.Decimal.Double
