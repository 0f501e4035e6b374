import Stowage.Acl.Basic
import Stowage.Identity

/-!
Whether an identity may access an entry, by its owner, its mode word and its access control list.
A refusal is an answer, not a failure.
-/
namespace Stowage

/-- What a permission query looks at in an entry. -/
structure Ownership where
  uid : UInt32
  gid : UInt32
  mode : Mode
  deriving DecidableEq, Repr

namespace Permission

/-- The granted bits cover the requested ones. -/
def covers (granted requested : Mode) : Bool :=
  granted &&& requested == requested

/-- The permission of the entry that names the user. -/
def namedUser? (acl : Acl) (uid : UInt32) : Option Mode :=
  (acl.entries.find? fun e => ¬ e.isDefault ∧ e.tag = .user ∧ e.id = uid).map (·.perm.toUInt32)

/-- The permissions of the entries that name one of the groups. -/
def namedGroups (acl : Acl) (groups : List Group) : List Mode :=
  (acl.entries.filter fun e =>
    ¬ e.isDefault ∧ e.tag = .group ∧ SecurityContext.hasGroup groups e.id).map (·.perm.toUInt32)

/-- The permission of the owning group, if one of the groups is the owning one. -/
def owningGroup? (acl : Acl) (groups : List Group) (gid : UInt32) : Option Mode :=
  if SecurityContext.hasGroup groups gid then acl.permOf? .groupObj else none

/-- The bits a list grants to an identity that does not own the entry. The user's own entry
decides; else all entries that name one of the groups together; else the entry for everyone
else. The mask bounds the first two. Where there is no mask, the owning group's entry decides
alone. -/
def grantedByList (ctx : SecurityContext) (acl : Acl) (entry : Ownership) : Mode :=
  let mask := acl.permOf? .mask
  match namedUser? acl ctx.uid with
  | some perm => perm &&& mask.getD 7
  | none =>
    match owningGroup? acl ctx.groups entry.gid, mask with
    | some perm, none => perm
    | owning, _ =>
      match owning.toList ++ namedGroups acl ctx.groups with
      | [] => (acl.permOf? .other).getD entry.mode.otherBits
      | perms => perms.foldl (· ||| ·) 0 &&& mask.getD 7

/-- The bits granted to an identity that is neither root nor banned. -/
def granted (ctx : SecurityContext) (acl : Acl) (entry : Ownership) : Mode :=
  if entry.uid = ctx.uid then entry.mode.ownerBits
  else if acl.isEmpty then
    if SecurityContext.hasGroup ctx.groups entry.gid then entry.mode.groupBits
    else entry.mode.otherBits
  else grantedByList ctx acl entry

/-- Whether the identity may access the entry in the requested way. Root may do everything, a
banned identity nothing. -/
def permits (ctx : SecurityContext) (acl : Acl) (entry : Ownership) (requested : Mode) : Bool :=
  if ctx.isRoot then true
  else if ctx.isBanned then false
  else covers (granted ctx acl entry) (requested &&& 7)

end Permission
end Stowage
