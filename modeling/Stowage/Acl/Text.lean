import Stowage.Acl.Basic
import Stowage.Error
import Stowage.Text

/-!
The compact text of an access control list: entries apart by commas, each a letter for the type
(`A` for the owner up to `F` for everyone else, in lower case for default entries), one octal digit
and a decimal id.
-/
namespace Stowage

namespace AclEntry

/-- The letter of the entry's type. -/
def letter (e : AclEntry) : Char :=
  Char.ofNat ('@'.toNat + e.rawType)

/-- Letter, permission and id. -/
def text (e : AclEntry) : String :=
  String.ofList (e.letter :: (Nat.toDigits 10 e.perm.toNat ++ Nat.toDigits 10 e.id.toNat))

/-- The tag a letter stands for, and whether it is the letter of a default entry. -/
def ofLetter? (c : Char) : Option (AclTag × Bool) :=
  match c with
  | 'A' => some (.userObj, false)
  | 'B' => some (.user, false)
  | 'C' => some (.groupObj, false)
  | 'D' => some (.group, false)
  | 'E' => some (.mask, false)
  | 'F' => some (.other, false)
  | 'a' => some (.userObj, true)
  | 'b' => some (.user, true)
  | 'c' => some (.groupObj, true)
  | 'd' => some (.group, true)
  | 'e' => some (.mask, true)
  | 'f' => some (.other, true)
  | _ => none

/-- The value of an octal digit. -/
def octal? (c : Char) : Option UInt8 :=
  if '0' ≤ c ∧ c ≤ '7' then some (UInt8.ofNat (c.toNat - '0'.toNat)) else none

/-- The id at the end of an entry; where nothing is written it is zero. -/
def readId? (cs : List Char) : Option UInt32 :=
  if cs = [] then some 0 else (Text.readUnsigned? UInt32.size cs).map UInt32.ofNat

/-- Reads one entry that is trimmed and not empty. The first fault from the left is reported,
except that a missing permission is noticed before a wrong letter. -/
def read (item : List Char) : Except Error AclEntry :=
  match item with
  | [] => .error (.invalidAcl "empty entry")
  | [_] => .error (.invalidAcl ("entry '" ++ String.ofList item ++ "' has no permission"))
  | type :: digit :: idText =>
    match ofLetter? type, octal? digit, readId? idText with
    | none, _, _ => .error (.invalidAcl ("invalid ACL type: " ++ type.toString))
    | _, none, _ => .error (.invalidAcl ("invalid permission: " ++ digit.toString))
    | _, _, none => .error (.invalidAcl ("invalid id in entry '" ++ String.ofList item ++ "'"))
    | some (tag, isDefault), some perm, some id => .ok { tag, isDefault, perm, id }

end AclEntry

namespace Acl

/-- The entries' texts, apart by commas. -/
def text (acl : Acl) : String :=
  ",".intercalate (acl.entries.map AclEntry.text)

/-- The items of a list's text, trimmed; empty ones say nothing. -/
def items (text : String) : List (List Char) :=
  ((text.toList.splitOn ',').map Text.trimChars).filter (· ≠ [])

/-- Reads the text of a list. -/
def parse (text : String) : Except Error Acl := do
  return .ofEntries (← (items text).mapM AclEntry.read)

end Acl
end Stowage
