/-!
Failures of the storage stack. A failure is a category, a sub-code and a message. Category and
sub-code pack into one word, the category in the high byte, so a code can cross an interface
unchanged; callers branch on the `ErrorKind` that the sub-code stands for.
-/
namespace Stowage

/-- Who is answerable for a failure. -/
inductive Category where
  /-- The request itself: a missing file, a refused permission. -/
  | user
  /-- The stack or a backend. -/
  | system
  /-- Loading and composing plugins. -/
  | configuration
  /-- A namespace or pool database. -/
  | database
  deriving DecidableEq, Repr, Inhabited

/-- The high byte of a packed code. -/
def Category.index : Category → UInt32
  | .user => 0
  | .system => 1
  | .configuration => 2
  | .database => 3

/-- An index that names no category counts as the user's. -/
def Category.ofIndex (index : UInt32) : Category :=
  if index = 1 then .system
  else if index = 2 then .configuration
  else if index = 3 then .database
  else .user

def Category.text : Category → String
  | .user => "user"
  | .system => "system"
  | .configuration => "configuration"
  | .database => "database"

/-- The contracts a plugin can provide. -/
inductive ContractKind where
  | accounts
  | inode
  | catalog
  | pools
  | driver
  | io
  deriving DecidableEq, Repr, Inhabited

/-- The name a contract goes by in messages and listings. -/
def ContractKind.text : ContractKind → String
  | .accounts => "UserGroupDb"
  | .inode => "INode"
  | .catalog => "Catalog"
  | .pools => "PoolManager"
  | .driver => "PoolDriver"
  | .io => "IODriver"

/-! The sub-codes in use. The small ones are the system's own error numbers. -/
namespace Subcode

def noEntry : UInt32 := 2
def inputOutput : UInt32 := 5
def badHandle : UInt32 := 9
def accessDenied : UInt32 := 13
def exists_ : UInt32 := 17
def notDirectory : UInt32 := 20
def isDirectory : UInt32 := 21
def invalidArgument : UInt32 := 22
def noSpace : UInt32 := 28
def notImplemented : UInt32 := 38
def notEmpty : UInt32 := 39
def internal : UInt32 := 258
def noPools : UInt32 := 272
def noCatalog : UInt32 := 273
def noInode : UInt32 := 274
def noAccounts : UInt32 := 275
def noIoDriver : UInt32 := 276
def noPoolDriver : UInt32 := 277
def unknownPlugin : UInt32 := 278
def noSecurityContext : UInt32 := 300
def malformed : UInt32 := 350
def unknownOption : UInt32 := 351
def noReplicas : UInt32 := 401
def noSuchReplica : UInt32 := 402
def noSuchUser : UInt32 := 501
def noSuchGroup : UInt32 := 502
def authentication : UInt32 := 503
def invalidAcl : UInt32 := 504
def unknownPoolType : UInt32 := 600
def noSuchPool : UInt32 := 601

end Subcode

/-- The sub-code reported when no plugin provides a contract. -/
def ContractKind.missingSubcode : ContractKind → UInt32
  | .accounts => Subcode.noAccounts
  | .inode => Subcode.noInode
  | .catalog => Subcode.noCatalog
  | .pools => Subcode.noPools
  | .driver => Subcode.noPoolDriver
  | .io => Subcode.noIoDriver

/-- What a caller can tell failures apart by. -/
inductive ErrorKind where
  | authenticationError
  | permissionDenied
  | notImplemented
  | unknownOption
  | noFactory
  | noSuchUser
  | noSuchGroup
  | noSuchReplica
  | fileNotFound
  | noReplicaAvailable
  | invalidAcl
  | internal
  | noSuchPool
  | unknownPoolType
  | noSecurityContext
  | alreadyExists
  | notADirectory
  | isADirectory
  | notEmpty
  | invalidArgument
  | malformed
  | other
  deriving DecidableEq, Repr, Inhabited

/-- The kind a sub-code stands for; a missing contract and an unknown plugin are of one kind. -/
def ErrorKind.ofSubcode (subcode : UInt32) : ErrorKind :=
  if subcode = Subcode.authentication then .authenticationError
  else if subcode = Subcode.accessDenied then .permissionDenied
  else if subcode = Subcode.notImplemented then .notImplemented
  else if subcode = Subcode.unknownOption then .unknownOption
  else if Subcode.noPools ≤ subcode ∧ subcode ≤ Subcode.unknownPlugin then .noFactory
  else if subcode = Subcode.noSuchUser then .noSuchUser
  else if subcode = Subcode.noSuchGroup then .noSuchGroup
  else if subcode = Subcode.noSuchReplica then .noSuchReplica
  else if subcode = Subcode.noEntry then .fileNotFound
  else if subcode = Subcode.noReplicas then .noReplicaAvailable
  else if subcode = Subcode.invalidAcl then .invalidAcl
  else if subcode = Subcode.internal then .internal
  else if subcode = Subcode.noSuchPool then .noSuchPool
  else if subcode = Subcode.unknownPoolType then .unknownPoolType
  else if subcode = Subcode.noSecurityContext then .noSecurityContext
  else if subcode = Subcode.exists_ then .alreadyExists
  else if subcode = Subcode.notDirectory then .notADirectory
  else if subcode = Subcode.isDirectory then .isADirectory
  else if subcode = Subcode.notEmpty then .notEmpty
  else if subcode = Subcode.invalidArgument then .invalidArgument
  else if subcode = Subcode.malformed then .malformed
  else .other

/-- A failure. `Error.make` keeps the sub-code within its 24 bits. -/
structure Error where
  category : Category
  subcode : UInt32
  message : String
  deriving DecidableEq, Repr, Inhabited

namespace Error

/-- The bits of a packed code that hold the sub-code. -/
def subcodeMask : UInt32 := 0x00FFFFFF

def make (category : Category) (subcode : UInt32) (message : String) : Error :=
  ⟨category, subcode &&& subcodeMask, message⟩

/-- The failure a packed code stands for. -/
def ofCode (code : UInt32) (message : String) : Error :=
  make (.ofIndex (code >>> 24)) code message

/-- Category and sub-code in one word. -/
def code (e : Error) : UInt32 :=
  (e.category.index <<< 24) ||| e.subcode

def kind (e : Error) : ErrorKind :=
  .ofSubcode e.subcode

/-- The same failure, told with more context; category and sub-code stay. -/
def withContext (e : Error) (context : String) : Error :=
  { e with message := context ++ ": " ++ e.message }

/-- A decimal number with zeros in front, at least `width` digits long. -/
private def padded (width n : Nat) : String :=
  let digits := Nat.toDigits 10 n
  String.ofList (List.replicate (width - digits.length) '0' ++ digits)

/-- The message under its tag `[#CC.SSSSSS]`, by which logs are searched. -/
def display (e : Error) : String :=
  "[#" ++ padded 2 e.category.index.toNat ++ "." ++ padded 6 e.subcode.toNat ++ "] " ++ e.message

/-- A failure of configuration ends the construction of a stack. -/
def isFatal (e : Error) : Bool :=
  e.category = .configuration

/-- Whether other credentials could make the call succeed. -/
def isAuthorization (e : Error) : Bool :=
  match e.kind with
  | .permissionDenied | .authenticationError | .noSecurityContext => true
  | _ => false

def notImplemented (operation : String) : Error :=
  make .system Subcode.notImplemented ("there is no plugin that implements " ++ operation)

def unknownOption (key : String) : Error :=
  make .configuration Subcode.unknownOption ("unknown option " ++ key)

def unknownPlugin (id : String) : Error :=
  make .configuration Subcode.unknownPlugin ("plugin " ++ id ++ " is not available")

def noFactory (kind : ContractKind) : Error :=
  make .configuration kind.missingSubcode ("no plugin provides " ++ kind.text)

/-- A decorating plugin needs something of that contract to wrap. -/
def nothingToDecorate (plugin : String) (kind : ContractKind) : Error :=
  make .configuration kind.missingSubcode
    ("plugin " ++ plugin ++ " decorates " ++ kind.text ++ " and cannot be loaded first")

def permissionDenied (message : String) : Error :=
  make .user Subcode.accessDenied message

def fileNotFound (path : String) : Error :=
  make .user Subcode.noEntry (path ++ " does not exist")

def alreadyExists (path : String) : Error :=
  make .user Subcode.exists_ (path ++ " already exists")

def notADirectory (path : String) : Error :=
  make .user Subcode.notDirectory (path ++ " is not a directory")

def isADirectory (path : String) : Error :=
  make .user Subcode.isDirectory (path ++ " is a directory")

def notEmpty (path : String) : Error :=
  make .user Subcode.notEmpty (path ++ " is not empty")

def invalidArgument (message : String) : Error :=
  make .user Subcode.invalidArgument message

def authentication (message : String) : Error :=
  make .system Subcode.authentication message

def noSuchUser (name : String) : Error :=
  make .user Subcode.noSuchUser ("user " ++ name ++ " not found")

def noSuchGroup (name : String) : Error :=
  make .user Subcode.noSuchGroup ("group " ++ name ++ " not found")

def noSuchReplica (message : String) : Error :=
  make .user Subcode.noSuchReplica message

def noReplicaAvailable (message : String) : Error :=
  make .user Subcode.noReplicas message

def noSuchPool (name : String) : Error :=
  make .user Subcode.noSuchPool ("pool " ++ name ++ " not found")

def unknownPoolType (poolType : String) : Error :=
  make .system Subcode.unknownPoolType
    ("no plugin recognises the pool type '" ++ poolType ++ "'")

def invalidAcl (message : String) : Error :=
  make .system Subcode.invalidAcl message

def noSecurityContext : Error :=
  make .system Subcode.noSecurityContext "the security context has not been initialized"

def malformed (message : String) : Error :=
  make .configuration Subcode.malformed message

def internal (message : String) : Error :=
  make .system Subcode.internal message

/-- The documents that only this failure is reported for are configuration files. -/
def yaml : Error :=
  malformed "YAML parse error"

end Error
end Stowage
