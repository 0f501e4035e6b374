import Stowage.Error
import Stowage.Text
import Stowage.Json

/-!
Filesystems: the directories that a disk pool is made of. A pool keeps its filesystems as JSON
among its attributes; reading them back gives what was written.
-/
namespace Stowage

inductive FilesystemStatus where
  | active
  | disabled
  | readOnly
  deriving DecidableEq, Repr, Inhabited

namespace FilesystemStatus

/-- Active filesystems serve reads and writes, read-only ones reads. -/
def allows (status : FilesystemStatus) (forWrite : Bool) : Bool :=
  match status with
  | .active => true
  | .readOnly => !forWrite
  | .disabled => false

def text : FilesystemStatus → String
  | .active => "active"
  | .disabled => "disabled"
  | .readOnly => "readonly"

/-- The status a stored text names. -/
def ofText? (s : String) : Option FilesystemStatus :=
  if s = "active" then some .active
  else if s = "disabled" then some .disabled
  else if s = "readonly" then some .readOnly
  else none

/-- Reads the status as an operator writes it: a name in any case, or its number. -/
def parse (s : String) : Except Error FilesystemStatus :=
  let word := Text.lower s
  if word = "active" ∨ word = "0" then .ok .active
  else if word = "disabled" ∨ word = "1" then .ok .disabled
  else if word = "readonly" ∨ word = "rdonly" ∨ word = "2" then .ok .readOnly
  else .error (.invalidArgument ("unknown filesystem status '" ++ word ++ "'"))

end FilesystemStatus

structure Filesystem where
  server : String
  path : String
  weight : UInt32 := 1
  free : UInt64 := 0
  total : UInt64 := 0
  status : FilesystemStatus := .active
  deriving DecidableEq, Repr, Inhabited

namespace Filesystem

/-- Whether the filesystem serves the requested mode. Writes need a weight above zero. -/
def accepts (fs : Filesystem) (forWrite : Bool) : Bool :=
  fs.status.allows forWrite && (!forWrite || fs.weight > 0)

def toJson (fs : Filesystem) : Json :=
  .obj [("server", .str fs.server), ("path", .str fs.path), ("weight", .nat fs.weight.toNat),
    ("free", .nat fs.free.toNat), ("total", .nat fs.total.toNat), ("status", .str fs.status.text)]

def readWeight? (value : Json) : Option UInt32 := do
  let n ← value.u64?
  if n < UInt32.size then some (UInt32.ofNat n) else none

def readSize? (value : Json) : Option UInt64 :=
  value.u64?.map UInt64.ofNat

/-- A status is written as its name, or as an object with the name as its only key and null as
the value. -/
def readStatus? : Json → Option FilesystemStatus
  | .str s => FilesystemStatus.ofText? s
  | .obj [(s, .null)] => FilesystemStatus.ofText? s
  | _ => none

/-- Reads a value that may be missing. -/
def readOr {α : Type} (default : α) (read : Json → Option α) : Option Json → Option α
  | none => some default
  | some value => read value

/-- Reads a filesystem from its six values; all but server and path may be missing. -/
def ofValues? (server path weight free total status : Option Json) : Option Filesystem := do
  return {
    server := ← (← server).str?
    path := ← (← path).str?
    weight := ← readOr 1 readWeight? weight
    free := ← readOr 0 readSize? free
    total := ← readOr 0 readSize? total
    status := ← readOr .active readStatus? status }

/-- Reads a filesystem from an object, in which other fields say nothing, or from the list of its
values in order. -/
def ofJson? : Json → Option Filesystem
  | .obj fields =>
    let value (name : String) := Json.field? name fields
    ofValues? (value "server") (value "path") (value "weight") (value "free") (value "total")
      (value "status")
  | .arr values =>
    if values.length ≤ 6 then
      ofValues? values[0]? values[1]? values[2]? values[3]? values[4]? values[5]?
    else none
  | _ => none

/-- Reads a list of filesystems. -/
def listOfJson? : Json → Option (List Filesystem)
  | .arr items => items.mapM ofJson?
  | _ => none

def listToJson (filesystems : List Filesystem) : Json :=
  .arr (filesystems.map toJson)

theorem readWeight?_nat (weight : UInt32) : readWeight? (.nat weight.toNat) = some weight := by
  have below : weight.toNat < UInt32.size := weight.toNat_lt
  have fits : weight.toNat < 0x10000000000000000 := Nat.lt_trans below (by decide)
  unfold readWeight?
  rw [Json.u64?_nat fits]
  simp [below]

theorem readSize?_nat (size : UInt64) : readSize? (.nat size.toNat) = some size := by
  unfold readSize?
  rw [Json.u64?_nat size.toNat_lt]
  simp

theorem readStatus?_text (status : FilesystemStatus) :
    readStatus? (.str status.text) = some status := by
  cases status <;> rfl

theorem readOr_some {α : Type} (default : α) (read : Json → Option α) (value : Json) :
    readOr default read (some value) = read value :=
  rfl

theorem ofValues?_eq_some {fs : Filesystem} {weight free total status : Option Json}
    (weighs : readOr 1 readWeight? weight = some fs.weight)
    (frees : readOr 0 readSize? free = some fs.free)
    (holds : readOr 0 readSize? total = some fs.total)
    (stands : readOr .active readStatus? status = some fs.status) :
    ofValues? (some (.str fs.server)) (some (.str fs.path)) weight free total status = some fs := by
  unfold ofValues?
  rw [weighs, frees, holds, stands]
  rfl

/-- A filesystem that was written is read back. -/
theorem ofJson?_toJson (fs : Filesystem) : ofJson? fs.toJson = some fs := by
  have read : ofJson? fs.toJson = ofValues? (some (.str fs.server)) (some (.str fs.path))
      (some (.nat fs.weight.toNat)) (some (.nat fs.free.toNat)) (some (.nat fs.total.toNat))
      (some (.str fs.status.text)) := by
    simp [ofJson?, toJson, Json.field?]
  rw [read]
  apply ofValues?_eq_some
  · rw [readOr_some, readWeight?_nat]
  · rw [readOr_some, readSize?_nat]
  · rw [readOr_some, readSize?_nat]
  · rw [readOr_some, readStatus?_text]

theorem listOfJson?_listToJson (filesystems : List Filesystem) :
    listOfJson? (listToJson filesystems) = some filesystems := by
  unfold listOfJson? listToJson
  induction filesystems with
  | nil => rfl
  | cons fs rest ih =>
    simp only at ih
    simp [ofJson?_toJson, ih]

end Filesystem
end Stowage
