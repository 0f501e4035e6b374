import Stowage.Acl.Basic
import Stowage.Acl.Text
import Stowage.Error

/-!
Which lists are well formed: permissions of three bits, no key twice, one entry each for the
owner, the owning group and everyone else, and a mask as soon as users or groups are named; the
default entries, if there are any, follow the same rules among themselves.
-/
namespace Stowage.Acl

/-- How many entries have the tag. -/
def count (acl : Acl) (tag : AclTag) (isDefault : Bool) : Nat :=
  acl.entries.countP fun e => e.tag = tag ∧ e.isDefault = isDefault

/-- Looks at each entry and at the one before it, for permissions out of range and repeated keys.
The order of the list puts equal keys side by side. -/
def checkEntries (previous : Option AclEntry) : List AclEntry → Except Error Unit
  | [] => .ok ()
  | e :: rest =>
    if e.perm > 7 then
      .error (.invalidAcl ("invalid permission: " ++ Text.ofInt e.perm.toNat))
    else if previous.map AclEntry.key = some e.key then
      .error (.invalidAcl
        ("duplicated entry: " ++ e.letter.toString ++ Text.ofInt e.id.toNat))
    else checkEntries (some e) rest

/-- Each of owner, owning group and everyone else has exactly one entry. -/
def hasBase (acl : Acl) (isDefault : Bool) : Bool :=
  acl.count .userObj isDefault = 1 ∧ acl.count .groupObj isDefault = 1 ∧
    acl.count .other isDefault = 1

/-- Exactly one mask, if users or groups are named. -/
def hasNeededMask (acl : Acl) (isDefault : Bool) : Bool :=
  (acl.count .user isDefault = 0 ∧ acl.count .group isDefault = 0) ∨
    acl.count .mask isDefault = 1

/-- Tells the first rule that the list breaks. -/
def validate (acl : Acl) : Except Error Unit :=
  if acl.isEmpty then .ok ()
  else do
    checkEntries none acl.entries
    if ¬ acl.hasBase false then
      throw (.invalidAcl
        "there must be one and only one of each type USER_OBJ, GROUP_OBJ, OTHER")
    if ¬ acl.hasNeededMask false then
      throw (.invalidAcl "a MASK entry is required when USER or GROUP entries exist")
    if acl.hasDefaults then
      if ¬ acl.hasBase true then
        throw (.invalidAcl
          "default entries need exactly one DEF_USER_OBJ, DEF_GROUP_OBJ and DEF_OTHER")
      if ¬ acl.hasNeededMask true then
        throw (.invalidAcl
          "a default MASK entry is required when default USER or GROUP entries exist")

end Stowage.Acl
