import Stowage.Contract.Io
import Stowage.Disk.Host
import Stowage.Disk.Settings
import Stowage.Location

/-!
Access to the files of disk pools. A file is opened only with a token that holds for it; the
directories above a file to write are made when they are missing.
-/
namespace Stowage

/-- An IO driver with the settings it was made with and the identity it works for. -/
structure LocalFiles where
  settings : TokenSettings
  security : Option SecurityContext := none
  deriving Repr, Inhabited

namespace LocalFiles

/-- Fails unless the attributes hold a valid token for the file. -/
def checkToken (l : LocalFiles) (now : Int) (file : String) (write : Bool) (attrs : Attributes) :
    Except Error Unit := do
  let token ← attrs.str Chunk.tokenKey ""
  if token = "" then throw (.permissionDenied ("no token presented for " ++ file))
  let id ← l.settings.identity l.security
  let status := Token.check now token id file l.settings.secret write
  if status ≠ .valid then
    throw (.permissionDenied ("token for " ++ file ++ " is " ++ status.text))

/-- A file's own failure, told with its name. -/
private def onFile {α : Type} (file : String) : Except FileFault α → Except Error α
  | .ok a => .ok a
  | .error fault => .error (fault.toError.withContext file)

/-- Opens a file that a valid token was shown for. -/
def openFile (file : String) (flags : OpenFlags) : Action FileTree Handle := do
  if flags.write then
    match FilePath.parentOf file with
    | none => pure ()
    | some (absolute, parts) =>
      fun t =>
        match FileTree.makeDirectories absolute parts.reverse t with
        | (.ok (), made) => .ok () made
        | (.error fault, made) => .error fault.toError made
    Action.update fun t => do
      let (id, t) ← onFile file (t.openToWrite file flags.create flags.truncate)
      return ({ node := .file id, writable := true }, t)
  else
    Action.query fun t => do
      return { node := ← onFile file (t.openToRead file), writable := false }

/-- The driver as an implementation of its contract. -/
def handler (l : LocalFiles) : Contract.io.Handler Host
  | .open_ file flags attrs => do
    Action.query fun host => l.checkToken host.now file flags.write attrs
    let handle ← Action.zoom Host.files (fun files host => { host with files }) (openFile file flags)
    return { handle }

end LocalFiles
end Stowage
