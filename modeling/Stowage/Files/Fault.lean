import Stowage.Error

/-!
The failures of the operating system, under the numbers and texts it gives them.
-/
namespace Stowage

/-- What the system says about a failure without a number. -/
inductive SystemCause where
  | notFound
  | permissionDenied
  | alreadyExists
  | invalidInput
  | other
  deriving DecidableEq, Repr, Inhabited

def SystemCause.subcode : SystemCause → UInt32
  | .notFound => Subcode.noEntry
  | .permissionDenied => Subcode.accessDenied
  | .alreadyExists => Subcode.exists_
  | .invalidInput => Subcode.invalidArgument
  | .other => Subcode.inputOutput

/-- A failure of the system that has no number. -/
def Error.ofCause (cause : SystemCause) (text : String) : Error :=
  .make .system cause.subcode text

/-- The number under which the system refuses an operation that is not permitted. -/
def notPermitted : UInt32 := 1

/-- A failure of the system with its number. An operation that is not permitted counts as one
that permissions deny. -/
def Error.ofNumber (number : UInt32) (text : String) : Error :=
  .make .system (if number = notPermitted then Subcode.accessDenied else number) text

inductive FileFault where
  | noEntry
  | badHandle
  | exists_
  | notDirectory
  | isDirectory
  | invalid
  | nameTooLong
  /-- The file name holds the character that ends names. -/
  | nulInName
  /-- The file holds no text. -/
  | notText
  deriving DecidableEq, Repr, Inhabited

namespace FileFault

def number : FileFault → UInt32
  | .noEntry => Subcode.noEntry
  | .badHandle => Subcode.badHandle
  | .exists_ => Subcode.exists_
  | .notDirectory => Subcode.notDirectory
  | .isDirectory => Subcode.isDirectory
  | .invalid | .nulInName => Subcode.invalidArgument
  | .nameTooLong => 36
  | .notText => Subcode.inputOutput

def text : FileFault → String
  | .noEntry => "No such file or directory (os error 2)"
  | .badHandle => "Bad file descriptor (os error 9)"
  | .exists_ => "File exists (os error 17)"
  | .notDirectory => "Not a directory (os error 20)"
  | .isDirectory => "Is a directory (os error 21)"
  | .invalid => "Invalid argument (os error 22)"
  | .nameTooLong => "File name too long (os error 36)"
  | .nulInName => "file name contained an unexpected NUL byte"
  | .notText => "stream did not contain valid UTF-8"

/-- Failures of files are the system's. -/
def toError (fault : FileFault) : Error :=
  .ofNumber fault.number fault.text

end FileFault
end Stowage
