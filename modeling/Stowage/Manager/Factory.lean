import Stowage.AccountTable
import Stowage.Namespace
import Stowage.Pool.Table
import Stowage.Stack.Node

/-!
Factories: what a plugin registers. A factory takes options and makes nodes for stacks. The tables
in memory belong to their factory, and all nodes that it makes work on them.
-/
namespace Stowage

/-- The tables of one memory plugin. -/
structure MemoryTables where
  accounts : AccountTable := {}
  namespace_ : Namespace := .initial
  pools : PoolTable := ∅
  deriving Repr, Inhabited

/-- Takes an option of the memory plugin. -/
def MemoryTables.configure (t : MemoryTables) (key value : String) :
    Except Error MemoryTables := do
  if key = "MemoryUser" then
    return { t with accounts := t.accounts.addUser (← Account.parse value) }
  else if key = "MemoryGroup" then
    return { t with accounts := t.accounts.addGroup (← Group.parse value) }
  else if key = "MemoryPool" then
    let pool ← Pool.parse value
    return { t with pools := t.pools.insert pool.name pool }
  else if key = "MemoryFilesystem" then
    let (pool, fs) ← Filesystem.parse value
    return { t with pools := ← t.pools.addFilesystem pool fs }
  else throw (.unknownOption key)

/-- What is said of a factory without naming a contract is said of all contracts. -/
instance : Coe Bool (ContractKind → Bool) := ⟨fun all _ => all⟩

/-- A factory brought by a plugin. -/
structure CustomFactory where
  plugin : String
  /-- Whether its nodes for a contract wrap the nodes registered before. -/
  decorates : ContractKind → Bool := fun _ => false
  /-- The node it makes for a contract. -/
  node : ContractKind → Except Error PlainNode := fun kind => .error (.noFactory kind)
  /-- The pool type that its drivers serve. -/
  poolType : String := ""
  driver : Except Error PlainDriver := .error (.noFactory .driver)
  /-- Whether it accepts an option. -/
  accept : String → String → Except Error Unit := fun key _ => .error (.unknownOption key)

inductive Factory where
  | builtInCatalog
  | memory (tables : MemoryTables)
  | disk (options : TokenOptions)
  | profiler (slowMs : Nat)
  | librarian
  | custom (factory : CustomFactory)

namespace Factory

/-- The plugin that the factory is from. -/
def plugin : Factory → String
  | .builtInCatalog => "builtin"
  | .memory _ => "memory"
  | .disk _ => "filesystem"
  | .profiler _ => "profiler"
  | .librarian => "librarian"
  | .custom factory => factory.plugin

/-- Whether the factory's nodes for a contract wrap the nodes registered before. -/
def decorates (kind : ContractKind) : Factory → Bool
  | .profiler _ | .librarian => true
  | .custom factory => factory.decorates kind
  | _ => false

/-- The factory after it took an option. An option that it does not know is refused as
`unknownOption`. -/
def configure (key value : String) : Factory → Except Error Factory
  | .builtInCatalog | .librarian => .error (.unknownOption key)
  | .memory tables => do return .memory (← tables.configure key value)
  | .disk options => do return .disk (← options.configure key value)
  | .profiler _ =>
    if key = "ProfilerSlowMs" then
      match Text.readU64? (Text.trim value) with
      | some slowMs => .ok (.profiler slowMs)
      | none => .error (.malformed
          ("ProfilerSlowMs must be milliseconds, got '" ++ value ++ "'"))
    else .error (.unknownOption key)
  | .custom factory => do
    factory.accept key value
    return .custom factory

/-- Makes a node that wraps others. -/
def decorator (kind : ContractKind) : Factory → Except Error Decorator
  | .profiler slowMs => .ok (.profiler slowMs)
  | .librarian => .ok (.librarian false)
  | .custom factory => do return .plain (← factory.node kind).untold
  | _ => .error (.noFactory kind)

/-- Makes an innermost node over a table; `id` is the factory's own number. -/
def tableNode (kind : ContractKind) (id : FactoryId) : Factory → Except Error TableNode
  | .memory _ => .ok (.memory id)
  | .custom factory => do return .plain (← factory.node kind).untold
  | _ => .error (.noFactory kind)

/-- Makes an innermost IO node, with the settings as they are now. -/
def ioNode : Factory → Except Error IoNode
  | .disk options => do return .localFiles { settings := ← options.settings }
  | .custom factory => do return .plain (← factory.node .io).untold
  | _ => .error (.noFactory .io)

/-- The pool type that the factory's drivers serve. -/
def poolType? : Factory → Option String
  | .disk _ => some DiskDriver.poolType
  | .custom factory => some factory.poolType
  | _ => none

/-- Makes a pool driver, with the settings as they are now. -/
def driverNode : Factory → Except Error DriverNode
  | .disk options => do return .disk { settings := ← options.settings }
  | .custom factory => do return .plain (← factory.driver).untold
  | _ => .error (.noFactory .driver)

end Factory
end Stowage
