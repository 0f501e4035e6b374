import Stowage.Acl.Basic

/-!
How lists and mode words follow each other: what a new entry inherits from the default entries of
its directory, the mode word that a list shows, and the list that a change of the mode leaves.
-/
namespace Stowage.Acl

/-- Sets the three bits of `mode` at `shift` to what `create` and the permission share. -/
def bounded (mode create : Mode) (shift : UInt32) (perm : UInt8) : Mode :=
  (mode &&& ~~~((7 : UInt32) <<< shift)) ||| (create &&& (perm.toUInt32 <<< shift))

/-- The mode word after one default entry has had its say. -/
def boundedBy (create : Mode) (mode : Mode) (e : AclEntry) : Mode :=
  match e.tag with
  | .userObj => bounded mode create 6 e.perm
  | .groupObj => bounded mode create 3 e.perm
  | .other => bounded mode create 0 e.perm
  | _ => mode

/-- The access entry that a default entry turns into for an owner `uid` and a group `gid`. -/
def inheritedEntry (uid gid : UInt32) (create : Mode) (e : AclEntry) : AclEntry :=
  match e.tag with
  | .userObj => ⟨e.tag, false, e.perm &&& create.ownerBits.toUInt8, uid⟩
  | .groupObj => ⟨e.tag, false, e.perm &&& create.groupBits.toUInt8, gid⟩
  | .other => ⟨e.tag, false, e.perm &&& create.otherBits.toUInt8, e.id⟩
  | _ => ⟨e.tag, false, e.perm, e.id⟩

/-- What an entry created in a directory with this list starts with: its own list and its mode
word. `create` holds the requested permissions, `mode` the type and requested permissions. A
directory hands the default entries on; anything else gets a list only if there is a default
mask. -/
def inherit (acl : Acl) (uid gid : UInt32) (create mode : Mode) : Acl × Mode :=
  let defaults := acl.entries.filter (·.isDefault)
  let isDirectory := mode &&& Mode.directory == Mode.directory
  let entries :=
    if isDirectory then defaults.flatMap fun e => [inheritedEntry uid gid create e, e]
    else if (acl.findDefault? .mask).isSome then defaults.map (inheritedEntry uid gid create)
    else []
  (.ofEntries entries, defaults.foldl (boundedBy create) mode)

/-- The mode word of an entry with this list: the group class shows the mask where there is one.
What the list does not speak of stays as it is. -/
def modeOf (acl : Acl) (mode : Mode) : Mode :=
  let owner := (acl.permOf? .userObj).getD mode.ownerBits
  let group := ((acl.permOf? .mask).or (acl.permOf? .groupObj)).getD mode.groupBits
  let other := (acl.permOf? .other).getD mode.otherBits
  (mode &&& ~~~Mode.accessMask) ||| (owner <<< 6) ||| (group <<< 3) ||| other

/-- The permission that a change of the mode gives to an entry, if it touches it. -/
def permUnder (hasMask : Bool) (mode : Mode) (e : AclEntry) : Option Mode :=
  if e.isDefault then none
  else
    match e.tag with
    | .userObj => some mode.ownerBits
    | .mask => some mode.groupBits
    | .groupObj => if hasMask then none else some mode.groupBits
    | .other => some mode.otherBits
    | _ => none

/-- The list after a change of the mode: the base entries follow, the others stay. -/
def withMode (acl : Acl) (mode : Mode) : Acl :=
  let hasMask := (acl.find? .mask).isSome
  .ofEntries (acl.entries.map fun e =>
    match permUnder hasMask mode e with
    | some perm => { e with perm := perm.toUInt8 }
    | none => e)

end Stowage.Acl
