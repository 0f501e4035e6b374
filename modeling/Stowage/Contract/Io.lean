import Stowage.Contract.Basic
import Stowage.Attributes
import Stowage.Files.Handle

/-!
The contract of an IO driver, which opens physical files, and what is done with a file that is open.
-/
namespace Stowage

/-- How a file is opened. -/
structure OpenFlags where
  write : Bool := false
  create : Bool := false
  truncate : Bool := false
  deriving DecidableEq, Repr, Inhabited

namespace OpenFlags

def toRead : OpenFlags := {}

/-- Creates the file or empties it. -/
def toWrite : OpenFlags := ⟨true, true, true⟩

end OpenFlags

/-- An open file: the handle of the driver that opened it, and the profilers around the handle. -/
structure OpenFile where
  handle : Handle
  /-- The thresholds of the profilers in milliseconds, the outermost first. -/
  profilers : List Nat := []
  deriving DecidableEq, Repr, Inhabited

namespace OpenFile

instance : Coe OpenFile Handle := ⟨handle⟩

/-- The open file with one more profiler around it. -/
def profiled (slowMs : Nat) (opened : OpenFile) : OpenFile :=
  { opened with profilers := slowMs :: opened.profilers }

end OpenFile

inductive IoRequest where
  /-- Opens the file of that name. The attributes are those of its chunk, the token included. -/
  | open_ (file : String) (flags : OpenFlags) (attrs : Attributes)
  deriving Repr

namespace IoRequest

abbrev Answer : IoRequest → Type
  | .open_ .. => OpenFile

def operation : IoRequest → String
  | .open_ .. => "create_io_handler"

end IoRequest

abbrev Contract.io : Contract :=
  ⟨.io, IoRequest, IoRequest.Answer, IoRequest.operation⟩

/-- What is done with an open file. -/
inductive Transfer where
  | read (count : Nat)
  | write (data : List UInt8)
  | seek (offset : Int) (origin : SeekOrigin)
  | tell
  | flush
  | atEnd
  | close

namespace Transfer

abbrev Answer : Transfer → Type
  | .read _ => List UInt8
  | .write _ | .seek _ _ | .tell => Nat
  | .atEnd => Bool
  | .flush | .close => Unit

/-- Something that transfers bytes, over a handle and the files of its machine. -/
abbrev Handler : Type :=
  (t : Transfer) → Action (Handle × FileTree) t.Answer

/-- What a handle does by itself. -/
def act : Handler
  | .read count => Action.update fun (h, files) => do
    let (bytes, h) ← h.read files count
    return (bytes, h, files)
  | .write data => Action.update fun (h, files) => h.write files data
  | .seek offset origin => Action.update fun (h, files) => do
    let (position, h) ← h.seek files offset origin
    return (position, h, files)
  | .tell => Action.query fun (h, _) => h.tell
  | .flush => Action.query fun (h, _) => h.flush
  | .atEnd => Action.query fun (h, _) => .ok h.atEnd
  | .close => modify fun (h, files) => (h.close, files)

end Transfer

end Stowage
