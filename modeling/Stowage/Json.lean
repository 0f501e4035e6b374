/-!
JSON values, as attributes hold them. A number without a fractional part that fits a signed or an
unsigned 64-bit word is an integer; every other number is kept as the decimal it was written as.
-/
namespace Stowage

inductive Json where
  | null
  | bool (value : Bool)
  | int (value : Int)
  /-- The number `mantissa / 10 ^ places`. It counts as no integer, whatever its value. -/
  | decimal (mantissa : Int) (places : Nat)
  | str (value : String)
  | arr (items : List Json)
  | obj (fields : List (String × Json))
  deriving Repr, Inhabited, BEq

namespace Json

/-- A natural number as a value. -/
def nat (n : Nat) : Json :=
  .int n

/-- The value as an unsigned 64-bit word. -/
def u64? : Json → Option Nat
  | .int n => if 0 ≤ n ∧ n < 0x10000000000000000 then some n.toNat else none
  | _ => none

theorem u64?_nat {n : Nat} (fits : n < 0x10000000000000000) : (nat n).u64? = some n := by
  unfold nat u64?
  dsimp only
  rw [if_pos (by omega), Int.toNat_natCast]

/-- The value as a signed 64-bit word. -/
def i64? : Json → Option Int
  | .int n => if -0x8000000000000000 ≤ n ∧ n < 0x8000000000000000 then some n else none
  | _ => none

def str? : Json → Option String
  | .str s => some s
  | _ => none

/-- The value of a field; in an object that repeats a name the last one counts. -/
def field? (name : String) (fields : List (String × Json)) : Option Json :=
  (fields.reverse.find? fun (n, _) => n == name).map Prod.snd

end Json
end Stowage
