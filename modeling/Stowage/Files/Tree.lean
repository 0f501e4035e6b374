import Stowage.Files.Fault
import Stowage.Path
import Stowage.Table

/-!
Physical files: a tree of directories whose leaves name files, and the bytes of the files. Files
have an identity of their own, so one that is open outlives its name. Path names follow POSIX: the
components in front of the last one must be directories, and a slash at the end asks for one.
-/
namespace Stowage

/-- What a name stands for. -/
inductive FileNode where
  | directory
  | file (id : Nat)
  deriving DecidableEq, Repr, Inhabited

/-- Directories and files under the normal form of their paths from the root, which is always
there, and the bytes of every file. -/
structure FileTree where
  nodes : Table String FileNode
  contents : Table Nat (List UInt8)
  nextFile : Nat
  /-- The directory that relative paths start from. -/
  workingDir : List String
  deriving Repr

/-- A path name: where it starts, its components, and whether a slash ends it. -/
structure FilePath where
  absolute : Bool
  parts : List String
  trailingSlash : Bool
  deriving DecidableEq, Repr

namespace FilePath

/-- The most bytes that a path name may have. -/
def maxLength : Nat := 4095

/-- The most bytes that a component may have. -/
def maxPart : Nat := 255

def parse (name : String) : Except FileFault FilePath :=
  if name.toList.contains '\x00' then .error .nulInName
  else if name = "" then .error .noEntry
  else if name.utf8ByteSize > maxLength then .error .nameTooLong
  else
    let parts := (Text.parts '/' name).filter (· ≠ "")
    .ok ⟨Path.isAbsolute name, parts, parts ≠ [] ∧ name.toList.getLast? = some '/'⟩

/-- The components that name the directory a file is in, with single dots left out except in
front; none for a path that has no parent. -/
def parentOf (name : String) : Option (Bool × List String) :=
  let absolute := Path.isAbsolute name
  let parts := (Text.parts '/' name).filter (· ≠ "")
  let meaningful :=
    match parts with
    | "." :: rest => (if absolute then [] else ["."]) ++ rest.filter (· ≠ ".")
    | parts => parts.filter (· ≠ ".")
  if meaningful = [] then none else some (absolute, meaningful.dropLast)

end FilePath

namespace FileTree

/-- An empty working directory and nothing else. -/
def initial : FileTree where
  nodes := Table.ofList [("/work", .directory)]
  contents := ∅
  nextFile := 0
  workingDir := ["work"]

instance : Inhabited FileTree := ⟨initial⟩

/-- What stands at a normal path. -/
def node? (t : FileTree) (at_ : List String) : Option FileNode :=
  if at_ = [] then some .directory else t.nodes.get? (Path.join at_)

/-- One step from a directory to the component `part`. -/
def step (t : FileTree) (dir : List String) (part : String) :
    Except FileFault (List String × FileNode) :=
  if part = "." then .ok (dir, .directory)
  else if part = ".." then .ok (dir.dropLast, .directory)
  else if part.utf8ByteSize > FilePath.maxPart then .error .nameTooLong
  else
    match t.node? (dir ++ [part]) with
    | some node => .ok (dir ++ [part], node)
    | none => .error .noEntry

/-- Walks from directory to directory. -/
def walk (t : FileTree) (dir : List String) : List String → Except FileFault (List String)
  | [] => .ok dir
  | part :: rest => do
    let (next, node) ← t.step dir part
    match node with
    | .directory => t.walk next rest
    | .file _ => throw .notDirectory

/-- The directory that holds the last component. -/
def holder (t : FileTree) (path : FilePath) : Except FileFault (List String) :=
  t.walk (if path.absolute then [] else t.workingDir) path.parts.dropLast

/-- The last component, unless it is a way to write a directory that is there anyway. -/
def FilePath.lastName? (path : FilePath) : Option String :=
  match path.parts.getLast? with
  | some "." | some ".." | none => none
  | some name => some name

/-- What a path name stands for. -/
def lookup (t : FileTree) (name : String) : Except FileFault FileNode := do
  let path ← FilePath.parse name
  let dir ← t.holder path
  match path.parts.getLast? with
  | none => return .directory
  | some part =>
    let (_, node) ← t.step dir part
    match node with
    | .file _ => if path.trailingSlash then throw .notDirectory else return node
    | .directory => return node

def isDirectory (t : FileTree) (name : String) : Bool :=
  match t.lookup name with
  | .ok .directory => true
  | _ => false

def exists_ (t : FileTree) (name : String) : Bool :=
  (t.lookup name).toBool

/-- Puts a node where there is none. -/
private def putNode (t : FileTree) (at_ : List String) (node : FileNode) : FileTree :=
  { t with nodes := t.nodes.insert (Path.join at_) node }

def makeDirectory (t : FileTree) (name : String) : Except FileFault FileTree := do
  let path ← FilePath.parse name
  let dir ← t.holder path
  let some last := FilePath.lastName? path | throw .exists_
  match t.step dir last with
  | .ok _ => throw .exists_
  | .error .noEntry => return t.putNode (dir ++ [last]) .directory
  | .error fault => throw fault

/-- Makes the directories that are missing on a path, whose components are given from the last
one on. Those made before a failure stay. -/
def makeDirectories (absolute : Bool) : List String → FileTree → Except FileFault Unit × FileTree
  | [], t => (.ok (), t)
  | last :: outer, t =>
    let name := (if absolute then "/" else "") ++ "/".intercalate (last :: outer).reverse
    match t.makeDirectory name with
    | .ok made => (.ok (), made)
    | .error .noEntry =>
      match makeDirectories absolute outer t with
      | (.error fault, t) => (.error fault, t)
      | (.ok (), t) =>
        match t.makeDirectory name with
        | .ok made => (.ok (), made)
        | .error fault => (if t.isDirectory name then .ok () else .error fault, t)
    | .error fault => (if t.isDirectory name then .ok () else .error fault, t)

/-- The bytes of a file. -/
def bytes (t : FileTree) (file : Nat) : List UInt8 :=
  (t.contents.get? file).getD []

def setBytes (t : FileTree) (file : Nat) (bytes : List UInt8) : FileTree :=
  { t with contents := t.contents.insert file bytes }

/-- Opens an existing file or directory to read. -/
def openToRead (t : FileTree) (name : String) : Except FileFault FileNode :=
  t.lookup name

/-- Opens a file to write, which may create it or empty it. Directories cannot be written. -/
def openToWrite (t : FileTree) (name : String) (create truncate : Bool) :
    Except FileFault (Nat × FileTree) := do
  if create then
    let path ← FilePath.parse name
    let dir ← t.holder path
    let some last := FilePath.lastName? path | throw .isDirectory
    if path.trailingSlash then throw .isDirectory
    match t.step dir last with
    | .ok (_, .directory) => throw .isDirectory
    | .ok (_, .file id) => return (id, if truncate then t.setBytes id [] else t)
    | .error .noEntry =>
      let id := t.nextFile
      return (id, { (t.putNode (dir ++ [last]) (.file id)).setBytes id [] with nextFile := id + 1 })
    | .error fault => throw fault
  else
    match ← t.lookup name with
    | .directory => throw .isDirectory
    | .file id => return (id, if truncate then t.setBytes id [] else t)

/-- Takes a file's name away. -/
def removeFile (t : FileTree) (name : String) : Except FileFault FileTree := do
  let path ← FilePath.parse name
  let dir ← t.holder path
  let some last := FilePath.lastName? path | throw .isDirectory
  match ← t.step dir last with
  | (_, .directory) => throw .isDirectory
  | (at_, .file _) =>
    if path.trailingSlash then throw .notDirectory
    return { t with nodes := t.nodes.erase (Path.join at_) }

/-- All of a file. -/
def read (t : FileTree) (name : String) : Except FileFault (List UInt8) := do
  match ← t.openToRead name with
  | .directory => throw .isDirectory
  | .file id => return t.bytes id

/-- All of a file that holds text. -/
def readText (t : FileTree) (name : String) : Except FileFault String := do
  match String.fromUTF8? ⟨(← t.read name).toArray⟩ with
  | some text => return text
  | none => throw .notText

/-- Makes `bytes` all of a file, which is created where there is none. -/
def write (t : FileTree) (name : String) (bytes : List UInt8) : Except FileFault FileTree := do
  let (id, t) ← t.openToWrite name true true
  return t.setBytes id bytes

end FileTree
end Stowage
