import Stowage.Action
import Stowage.Files.Tree

/-!
Open files. A handle has a position of its own in the bytes of a file that others may change at
the same time. Its flag for the end of the file is set by a read that finds nothing more and
cleared by a seek.
-/
namespace Stowage

/-- Where a seek counts from. -/
inductive SeekOrigin where
  | start
  | current
  | end_
  deriving DecidableEq, Repr, Inhabited

structure Handle where
  node : FileNode
  writable : Bool
  position : Nat := 0
  atEnd : Bool := false
  isOpen : Bool := true
  deriving DecidableEq, Repr, Inhabited

namespace Handle

/-- The failure of every transfer through a handle that is closed. -/
def closed : Error :=
  .make .system Subcode.badHandle "handler is closed"

/-- Reads up to `count` bytes. -/
def read (h : Handle) (t : FileTree) (count : Nat) : Except Error (List UInt8 × Handle) :=
  if ¬ h.isOpen then .error closed
  else
    match h.node with
    | .directory => .error FileFault.isDirectory.toError
    | .file id =>
      let bytes := ((t.bytes id).drop h.position).take count
      .ok (bytes, { h with
        position := h.position + bytes.length
        atEnd := if bytes = [] ∧ count ≠ 0 then true else h.atEnd })

/-- The bytes of a file after `data` is written at `position`; a gap before it holds zeros. -/
def splice (old : List UInt8) (position : Nat) (data : List UInt8) : List UInt8 :=
  let front := old.take position
  front ++ List.replicate (position - front.length) 0 ++ data ++ old.drop (position + data.length)

/-- Writes the bytes and tells how many. -/
def write (h : Handle) (t : FileTree) (data : List UInt8) :
    Except Error (Nat × Handle × FileTree) :=
  if ¬ h.isOpen then .error closed
  else
    match h.writable, h.node with
    | true, .file id =>
      if data = [] then .ok (0, h, t)
      else .ok (data.length, { h with position := h.position + data.length },
        t.setBytes id (splice (t.bytes id) h.position data))
    | _, _ => .error FileFault.badHandle.toError

/-- How many bytes there are. -/
def length (h : Handle) (t : FileTree) : Nat :=
  match h.node with
  | .file id => (t.bytes id).length
  | .directory => 0

/-- Moves the position and tells where it is now. An offset that would lead in front of the start
or beyond 64-bit positions is refused. -/
def seek (h : Handle) (t : FileTree) (offset : Int) (origin : SeekOrigin) :
    Except Error (Nat × Handle) :=
  if origin = .start ∧ offset < 0 then .error (.invalidArgument "negative absolute offset")
  else if ¬ h.isOpen then .error closed
  else
    let base : Nat :=
      match origin with
      | .start => 0
      | .current => h.position
      | .end_ => h.length t
    let target : Int := base + offset
    if target < 0 ∨ 0x8000000000000000 ≤ target then .error FileFault.invalid.toError
    else .ok (target.toNat, { h with position := target.toNat, atEnd := false })

def tell (h : Handle) : Except Error Nat :=
  if h.isOpen then .ok h.position else .error closed

def flush (h : Handle) : Except Error Unit :=
  if h.isOpen then .ok () else .error closed

/-- Closes the handle; one that is closed stays so. -/
def close (h : Handle) : Handle :=
  { h with isOpen := false }

end Handle
end Stowage
