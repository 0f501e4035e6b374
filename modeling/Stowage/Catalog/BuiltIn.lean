import Stowage.Acl.Inheritance
import Stowage.Acl.Validity
import Stowage.Contract.Catalog
import Stowage.Contract.Inode
import Stowage.Path

/-!
The built-in catalog: paths over any namespace addressed by inode numbers. Every directory that a
path leads through is checked for search permission, the parent for write permission before a name
appears or disappears, and ownership before an entry's own record changes. A failed operation
changes nothing.
-/
namespace Stowage

/-- What a catalog remembers between requests. -/
structure CatalogSession where
  security : Option SecurityContext := none
  workingDir : String := "/"
  umask : Mode := 0o022
  deriving Repr, Inhabited

/-- A session together with the store of the namespace it looks at. -/
structure Browsing (ν : Type) where
  session : CatalogSession
  store : ν

namespace BuiltIn

variable {ν : Type}

/-- The namespace under a catalog; there may be none. -/
abbrev Below (ν : Type) := Option (Contract.inode.Handler ν)

/-- Asks the namespace. -/
def ask (below : Below ν) (r : InodeRequest) : Action (Browsing ν) r.Answer :=
  match below with
  | some inode => Action.zoom Browsing.store (fun store b => { b with store }) (inode r)
  | none => throw (.noFactory .inode)

/-- The identity of the session. -/
def context : Action (Browsing ν) SecurityContext :=
  Action.query fun b =>
    match b.session.security with
    | some ctx => .ok ctx
    | none => .error .noSecurityContext

/-- The normal form of a path, seen from the working directory. -/
def absolute (path : String) : Action (Browsing ν) String :=
  Action.query fun b => .ok (Path.absolute b.session.workingDir path)

/-- Fails unless the identity of the session may access the entry. -/
def require (entry : Entry) (requested : Mode) (what : String) : Action (Browsing ν) Unit := do
  let ctx ← context
  if ¬ entry.permits ctx requested then
    throw (.permissionDenied ("not enough permissions on " ++ what))

/-- Fails unless the identity of the session is root or owns the entry. -/
def requireOwner (entry : Entry) (what : String) : Action (Browsing ν) Unit := do
  let ctx ← context
  if ¬ (ctx.isRoot ∨ ctx.uid = entry.stat.uid) then
    throw (.permissionDenied ("only the owner can modify " ++ what))

/-- The child of that name; one that is missing is reported under `path`. -/
def childOr (below : Below ν) (path : String) (parent : Nat) (name : String) :
    Action (Browsing ν) Entry := do
  match ← Action.attempt (ask below (.child parent name)) with
  | .ok entry => return entry
  | .error e => throw (if e.kind = .fileNotFound then .fileNotFound path else e)

/-- Walks down from `current`, which the components `walked` led to. -/
def descend (below : Below ν) (ctx : SecurityContext) (path : String) (walked : List String)
    (current : Entry) : List String → Action (Browsing ν) Entry
  | [] => return current
  | name :: rest => do
    if ¬ current.stat.isDirectory then throw (.notADirectory (Path.join walked))
    if ¬ current.permits ctx Mode.search then
      throw (.permissionDenied ("not enough permissions to traverse " ++ Path.join walked))
    let next ← childOr below path current.stat.ino name
    descend below ctx path (walked ++ [name]) next rest

/-- The entry at a normal path. -/
def lookup (below : Below ν) (path : String) : Action (Browsing ν) Entry := do
  let ctx ← context
  let root ← ask below (.child 0 "/")
  descend below ctx path [] root (Path.split path)

/-- The parent directory and the last component of a normal path. -/
def parentOf (below : Below ν) (path : String) : Action (Browsing ν) (Entry × String) := do
  let (parentPath, name?) := Path.parentAndName path
  let some name := name? | throw (.invalidArgument "the root has no parent")
  let parent ← lookup below parentPath
  if ¬ parent.stat.isDirectory then throw (.notADirectory parentPath)
  return (parent, name)

/-- The record of a new entry of type `type` in `parent`. Default entries of the parent take the
place of the creation mask. A set-group-id parent gives its group, and to directories its bit. -/
def template (ctx : SecurityContext) (umask : Mode) (parent : Entry) (name : String)
    (type mode : Mode) : Entry :=
  let setgid := parent.stat.mode.hasSetGroupId
  let gid := if setgid then parent.stat.gid else ctx.gid
  let (acl, fileMode) :=
    if parent.acl.hasDefaults then parent.acl.inherit ctx.uid gid mode (type ||| mode.perm)
    else (∅, type ||| (mode &&& ~~~umask).perm)
  let fileMode := if setgid ∧ type = Mode.directory then fileMode ||| Mode.setGroupId else fileMode
  { parent := parent.stat.ino, name, acl
    stat := { mode := fileMode, nlink := 1, uid := ctx.uid, gid } }

/-- Makes an entry of type `type`. -/
def createEntry (below : Below ν) (path : String) (type mode : Mode) :
    Action (Browsing ν) Unit := do
  let path ← absolute path
  let ctx ← context
  let (parent, name) ← parentOf below path
  require parent (Mode.write ||| Mode.search) path
  match ← Action.attempt (ask below (.child parent.stat.ino name)) with
  | .ok _ => throw (.alreadyExists path)
  | .error e => if e.kind ≠ .fileNotFound then throw e
  let umask ← Action.query fun b => .ok b.session.umask
  let _ ← ask below (.create (template ctx umask parent name type mode))

/-- The entry at a normal path that is about to lose its name. In a sticky directory only its
owner, the directory's owner and root may do that. -/
def removable (below : Below ν) (path : String) : Action (Browsing ν) Entry := do
  let ctx ← context
  let (parent, name) ← parentOf below path
  require parent (Mode.write ||| Mode.search) path
  let entry ← childOr below path parent.stat.ino name
  if parent.stat.mode.isSticky ∧ ¬ ctx.isRoot ∧ ctx.uid ≠ parent.stat.uid ∧
      ctx.uid ≠ entry.stat.uid then
    throw (.permissionDenied ("sticky bit set on the parent of " ++ path))
  return entry

/-- Fails unless the identity of the session may write the file that a replica says it is of. -/
def requireReplica (below : Below ν) (replica : Replica) : Action (Browsing ν) Unit := do
  let entry ← ask below (.entry replica.file)
  require entry Mode.write ("inode " ++ Text.ofInt replica.file)

def changeDir (below : Below ν) (path : String) : Action (Browsing ν) Unit := do
  let path ← absolute path
  let entry ← lookup below path
  if ¬ entry.stat.isDirectory then throw (.notADirectory path)
  require entry Mode.search path
  modify fun b => { b with session := { b.session with workingDir := path } }

def setUmask (mask : Mode) : Action (Browsing ν) Mode := do
  let previous ← Action.query fun b => .ok b.session.umask
  modify fun b => { b with session := { b.session with umask := mask &&& Mode.accessMask } }
  return previous

def access (below : Below ν) (path : String) (requested : Mode) : Action (Browsing ν) Bool := do
  let path ← absolute path
  let entry ← lookup below path
  if requested &&& 7 = 0 then return true
  let ctx ← context
  return entry.permits ctx requested

/-- Sets the permission bits of an entry, whose list follows. The set-group-id bit is not for
those outside the entry's group. -/
def setMode (below : Below ν) (path : String) (mode : Mode) : Action (Browsing ν) Unit := do
  let path ← absolute path
  let entry ← lookup below path
  requireOwner entry path
  let ctx ← context
  let outside := ¬ ctx.isRoot ∧ ¬ SecurityContext.hasGroup ctx.groups entry.stat.gid
  let mode := if outside then mode.perm &&& ~~~Mode.setGroupId else mode.perm
  let acl := if entry.acl.isEmpty then ∅ else entry.acl.withMode mode
  ask below (.setMode entry.stat.ino entry.stat.uid entry.stat.gid mode acl)

/-- Sets owner and group. Only root gives entries away, and an owner may choose among its own
groups. -/
def setOwner (below : Below ν) (path : String) (uid gid : UInt32) :
    Action (Browsing ν) Unit := do
  let path ← absolute path
  let entry ← lookup below path
  let ctx ← context
  if ¬ ctx.isRoot then
    if uid ≠ entry.stat.uid then throw (.permissionDenied "only root can change the owner")
    if ctx.uid ≠ entry.stat.uid then
      throw (.permissionDenied ("only the owner can change the group of " ++ path))
    if gid ≠ entry.stat.gid ∧ ¬ SecurityContext.hasGroup ctx.groups gid then
      throw (.permissionDenied ("user is not a member of group " ++ Text.ofInt gid.toNat))
  ask below (.setMode entry.stat.ino uid gid entry.stat.mode.perm entry.acl)

def setSize (below : Below ν) (path : String) (size : Nat) : Action (Browsing ν) Unit := do
  let path ← absolute path
  let entry ← lookup below path
  if entry.stat.isDirectory then throw (.isADirectory path)
  let ctx ← context
  if ctx.uid ≠ entry.stat.uid then require entry Mode.write path
  ask below (.setSize entry.stat.ino size)

/-- Sets the list of an entry, whose permission bits follow. -/
def setAcl (below : Below ν) (path : String) (acl : Acl) : Action (Browsing ν) Unit := do
  let path ← absolute path
  let entry ← lookup below path
  requireOwner entry path
  Action.ofExcept acl.validate
  if acl.hasDefaults ∧ ¬ entry.stat.isDirectory then
    throw (.invalidAcl "default entries are only allowed on directories")
  let mode := acl.modeOf entry.stat.mode.perm
  ask below (.setMode entry.stat.ino entry.stat.uid entry.stat.gid mode acl)

def replicas (below : Below ν) (path : String) : Action (Browsing ν) (List Replica) := do
  let path ← absolute path
  let entry ← lookup below path
  if entry.stat.isDirectory then throw (.isADirectory path)
  require entry Mode.read path
  ask below (.replicas entry.stat.ino)

def unlink (below : Below ν) (path : String) : Action (Browsing ν) Unit := do
  let path ← absolute path
  let entry ← removable below path
  if entry.stat.isDirectory then throw (.isADirectory path)
  ask below (.unlink entry.stat.ino)

def removeDir (below : Below ν) (path : String) : Action (Browsing ν) Unit := do
  let path ← absolute path
  if path = "/" then throw (.invalidArgument "the root directory cannot be removed")
  let entry ← removable below path
  if ¬ entry.stat.isDirectory then throw (.notADirectory path)
  ask below (.unlink entry.stat.ino)

def readDir (below : Below ν) (path : String) : Action (Browsing ν) (List Entry) := do
  let path ← absolute path
  let entry ← lookup below path
  if ¬ entry.stat.isDirectory then throw (.notADirectory path)
  require entry (Mode.read ||| Mode.search) path
  ask below (.readDir entry.stat.ino)

def entryAt (below : Below ν) (path : String) : Action (Browsing ν) Entry := do
  lookup below (← absolute path)

/-- The catalog as an implementation of its contract. -/
def handler (below : Below ν) : Contract.catalog.Handler (Browsing ν)
  | .changeDir path => changeDir below path
  | .workingDir => Action.query fun b => .ok b.session.workingDir
  | .umask mask => setUmask mask
  | .entry path => entryAt below path
  | .stat path => do return (← entryAt below path).stat
  | .access path requested => access below path requested
  | .setMode path mode => setMode below path mode
  | .setOwner path uid gid => setOwner below path uid gid
  | .setSize path size => setSize below path size
  | .setAcl path acl => setAcl below path acl
  | .replicas path => replicas below path
  | .addReplica replica => do
    requireReplica below replica
    ask below (.addReplica replica)
  | .deleteReplica replica => do
    requireReplica below replica
    ask below (.deleteReplica replica)
  | .updateReplica replica => do
    requireReplica below replica
    ask below (.updateReplica replica)
  | .create path mode => createEntry below path Mode.regular mode
  | .makeDir path mode => createEntry below path Mode.directory mode
  | .unlink path => unlink below path
  | .removeDir path => removeDir below path
  | .readDir path => readDir below path

end BuiltIn
end Stowage
