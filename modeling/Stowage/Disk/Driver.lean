import Stowage.Contract.Pools
import Stowage.Disk.Host
import Stowage.Disk.Settings
import Stowage.Placement

/-!
The driver of disk pools. A pool is a set of directories, perhaps on several servers. A write goes
to the filesystem of the highest rank, and the physical name of a replica is the path of its
filesystem followed by the logical path. Locations carry a token for their file.
-/
namespace Stowage

/-- A driver with the settings it was made with and the identity it works for. -/
structure DiskDriver where
  settings : TokenSettings
  security : Option SecurityContext := none
  deriving Repr, Inhabited

namespace DiskDriver

/-- The pool type that disk pools have. -/
def poolType : String := "filesystem"

/-- The name of the logical file `path` on a filesystem at `root`. -/
def physicalName (root path : String) : String :=
  let trimmedRoot := (root.toList.reverse.dropWhile (· == '/')).reverse
  String.ofList (trimmedRoot ++ '/' :: path.toList.dropWhile (· == '/'))

/-- A token for a physical file. -/
def token (d : DiskDriver) (now : Int) (file : String) (write : Bool) : Except Error String := do
  return Token.issue now (← d.settings.identity d.security) file d.settings.secret
    d.settings.lifetime write

def startsWith (s start : String) : Bool :=
  start.toList.isPrefixOf s.toList

/-- The first filesystem of the replica's server whose path begins its physical path. -/
def hosting? (filesystems : List Filesystem) (replica : Replica) : Option Filesystem :=
  filesystems.find? fun fs =>
    fs.server = replica.server ∧ startsWith replica.physicalPath fs.path

/-- What the filesystems of the pool that take writes have left. The sum is a 64-bit word and starts
over once it is full. -/
def freeSpace (pool : Pool) : Except Error Nat := do
  let left := ((← pool.filesystems).filter (·.accepts true)).map (·.free)
  return (left.foldr (· + ·) 0).toNat

/-- The size of all filesystems of the pool, added up like the free space. -/
def totalSpace (pool : Pool) : Except Error Nat := do
  let sizes := (← pool.filesystems).map (·.total)
  return (sizes.foldr (· + ·) 0).toNat

/-- The sum of 64-bit words is the sum of their numbers, less what does not fit a word. -/
theorem toNat_foldr_add (words : List UInt64) :
    (words.foldr (· + ·) 0).toNat =
      (words.map (·.toNat)).foldr (· + ·) 0 % 0x10000000000000000 := by
  induction words with
  | nil => rfl
  | cons word rest ih =>
    rw [List.foldr_cons, List.map_cons, List.foldr_cons, UInt64.toNat_add, ih, Nat.add_mod_mod]

/-- Where everything together fits a word, the free space is what there is. -/
theorem freeSpace_eq {pool : Pool} {filesystems : List Filesystem}
    (readable : pool.filesystems = .ok filesystems)
    (fits : ((filesystems.filter (·.accepts true)).map (·.free.toNat)).foldr (· + ·) 0 <
      0x10000000000000000) :
    freeSpace pool =
      .ok (((filesystems.filter (·.accepts true)).map (·.free.toNat)).foldr (· + ·) 0) := by
  unfold freeSpace
  rw [readable]
  refine congrArg Except.ok ((toNat_foldr_add _).trans ?_)
  rw [List.map_map]
  exact Nat.mod_eq_of_lt fits

/-- A location with one chunk under the physical name of the replica, refused if its filesystem
is disabled. -/
def readLocation (d : DiskDriver) (now : Int) (pool : Pool) (replica : Replica) :
    Except Error Location := do
  let file := replica.physicalPath
  if let some fs := hosting? (← pool.filesystems) replica then
    if ¬ fs.status.allows false then
      throw (.noReplicaAvailable
        ("filesystem " ++ fs.server ++ ":" ++ fs.path ++ " is disabled"))
  let token ← d.token now file false
  return ⟨[{ host := replica.server, path := file : Chunk }.tag Chunk.tokenKey (.str token)]⟩

/-- A location with one chunk on the best filesystem of the pool. -/
def writeLocation (d : DiskDriver) (now : Int) (pool : Pool) (path : String) :
    Except Error Location := do
  let some fs := Filesystem.choose (← pool.filesystems)
    | throw (.make .user Subcode.noSpace ("pool " ++ pool.name ++ " has no writable filesystem"))
  let file := physicalName fs.path path
  let token ← d.token now file true
  return ⟨[({ host := fs.server, path := file : Chunk }.tag Chunk.tokenKey (.str token)).tag
    Chunk.filesystemKey (.str fs.path)]⟩

/-- Whether the replica was written on this filesystem: by the path it recorded, or else by its
physical name. -/
def wroteTo (replica : Replica) (root : String) (fs : Filesystem) : Bool :=
  fs.server = replica.server ∧
    (if root = "" then startsWith replica.physicalPath fs.path else fs.path = root)

/-- Takes the written bytes off the first filesystem that `written` accepts. -/
def charge (written : Filesystem → Bool) (size : Nat) : List Filesystem → List Filesystem
  | [] => []
  | fs :: rest =>
    if written fs then { fs with free := UInt64.ofNat (fs.free.toNat - size) } :: rest
    else fs :: charge written size rest

def writeDone (pool : Pool) (replica : Replica) (size : Nat) : Except Error Pool := do
  let filesystems ← pool.filesystems
  let root ← replica.attrs.str Chunk.filesystemKey ""
  return pool.withFilesystems (charge (wroteTo replica root) size filesystems)

/-- Removes the files of the chunks in order, up to the first that cannot be removed. -/
def removeChunks : List Chunk → Action Host Unit
  | [] => pure ()
  | chunk :: rest => do
    Action.update fun host => do return ((), ← host.removeFile chunk.path)
    removeChunks rest

/-- The driver as an implementation of its contract. -/
def handler (d : DiskDriver) : Contract.driver.Handler Host
  | .isAvailable pool forWrite => Action.query fun _ => pool.hasUsableFilesystem forWrite
  | .freeSpace pool => Action.query fun _ => freeSpace pool
  | .totalSpace pool => Action.query fun _ => totalSpace pool
  | .readLocation pool replica => Action.query fun host => d.readLocation host.now pool replica
  | .writeLocation pool path => Action.query fun host => d.writeLocation host.now pool path
  | .writeDone pool replica size => Action.query fun _ => writeDone pool replica size
  | .cancelWrite _ location => removeChunks location.chunks
  | .remove _ _ replica =>
    Action.update fun host => do return ((), ← host.removeFile replica.physicalPath)

end DiskDriver
end Stowage
