import Stowage.Action
import Stowage.Files.Tree

/-!
The machine that disk pools are on: its files and its clock.
-/
namespace Stowage

structure Host where
  files : FileTree := .initial
  /-- Seconds since the epoch. -/
  now : Int := 0
  deriving Repr, Inhabited

namespace Host

/-- Removes a file; one that is gone already is no failure. -/
def removeFile (host : Host) (name : String) : Except Error Host :=
  match host.files.removeFile name with
  | .ok files => .ok { host with files }
  | .error .noEntry => .ok host
  | .error fault => .error (fault.toError.withContext name)

end Host
end Stowage
