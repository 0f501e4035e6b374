import Stowage.Error
import Stowage.Text
import Stowage.Table
import Stowage.Json

/-!
Free-form attributes of users, groups, pools, replicas and location chunks. The typed readers give
a default where a key is absent and fail where its value has another type; numbers and truth
values may also be written as text.
-/
namespace Stowage

/-- JSON values under text keys, in the order of the keys. -/
abbrev Attributes := Table String Json

namespace Attributes

/-- The failure of a reader: the attribute under `key` is something else. -/
def mismatch (key expected : String) : Error :=
  .invalidArgument ("attribute '" ++ key ++ "' is not " ++ expected)

private def orMismatch {α : Type} (key expected : String) : Option α → Except Error α
  | some a => .ok a
  | none => .error (mismatch key expected)

/-- The unsigned number under `key`. -/
def u64 (attrs : Attributes) (key : String) (default : Nat) : Except Error Nat :=
  match attrs.get? key with
  | none => .ok default
  | some (.str s) => orMismatch key "unsigned" (Text.readU64? (Text.trim s))
  | some (.bool b) => .ok b.toNat
  | some value => orMismatch key "unsigned" value.u64?

/-- The signed number under `key`. -/
def i64 (attrs : Attributes) (key : String) (default : Int) : Except Error Int :=
  match attrs.get? key with
  | none => .ok default
  | some (.str s) => orMismatch key "integer" (Text.readI64? (Text.trim s))
  | some (.bool b) => .ok b.toNat
  | some value => orMismatch key "integer" value.i64?

/-- The truth value that a text stands for. -/
def truth? (s : String) : Option Bool :=
  let word := Text.lower s
  if word = "true" ∨ word = "yes" ∨ word = "1" then some true
  else if word = "false" ∨ word = "no" ∨ word = "0" ∨ word = "" then some false
  else none

/-- The truth value under `key`. A number holds if it is a signed word other than zero. -/
def flag (attrs : Attributes) (key : String) (default : Bool) : Except Error Bool :=
  match attrs.get? key with
  | none => .ok default
  | some (.bool b) => .ok b
  | some (.str s) => orMismatch key "boolean" (truth? s)
  | some (.int n) => .ok (((Json.int n).i64?.map (· != 0)).getD false)
  | some (.decimal ..) => .ok false
  | some _ => .error (mismatch key "boolean")

/-- The text under `key`. -/
def str (attrs : Attributes) (key : String) (default : String) : Except Error String :=
  match attrs.get? key with
  | none => .ok default
  | some value => orMismatch key "string" value.str?

end Attributes
end Stowage
