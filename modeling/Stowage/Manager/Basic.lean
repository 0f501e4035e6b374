import Stowage.Manager.Factory
import Stowage.Placement

/-!
The plugin manager: which plugins there are and which are loaded, the factories they registered
for each contract, and the options. An option goes to every factory once, in the order in which
the factories were first accepted.
-/
namespace Stowage

/-- A contract that a plugin registers its factory for. -/
structure Registration where
  kind : ContractKind
  /-- Registered only if the contract has a factory already. -/
  ifPresent : Bool := false
  deriving DecidableEq, Repr

/-- What loading a plugin does. -/
inductive Plugin where
  /-- Registers one new factory for some contracts, in order. -/
  | registers (factory : Factory) (registrations : List Registration)
  | refuses (e : Error)

structure Manager where
  /-- The accepted factories under their numbers, in the order of their first acceptance. -/
  factories : List (FactoryId × Factory)
  /-- The accepted registrations, in order. -/
  registrations : List (ContractKind × FactoryId)
  /-- The number for the next new factory. -/
  nextFactory : FactoryId
  options : Table String String
  placement : Placement
  /-- The plugins that can be loaded, under their ids. -/
  plugins : Table String Plugin
  /-- The ids of the loaded plugins, in order. -/
  loaded : List String

namespace Manager

/-- The option that the manager takes itself. -/
def writePlacement : String := "WritePlacement"

/-- The plugins that come with the stack. -/
def bundled : Table String Plugin :=
  Table.ofList [
    ("memory", .registers (.memory {}) [{ kind := .accounts }, { kind := .inode },
      { kind := .pools }]),
    ("filesystem", .registers (.disk {}) [{ kind := .driver }, { kind := .io }]),
    ("profiler", .registers (.profiler 1000) [{ kind := .catalog },
      { kind := .pools, ifPresent := true }, { kind := .io, ifPresent := true }]),
    ("librarian", .registers .librarian [{ kind := .catalog }])]

/-- A manager with the bundled plugins to load and the built-in catalog in place. -/
def initial : Manager where
  factories := [(0, .builtInCatalog)]
  registrations := [(.catalog, 0)]
  nextFactory := 1
  options := ∅
  placement := {}
  plugins := bundled
  loaded := []

instance : Inhabited Manager := ⟨initial⟩

/-- Makes a plugin loadable, in the place of one with its id. -/
def addPlugin (m : Manager) (id : String) (plugin : Plugin) : Manager :=
  { m with plugins := m.plugins.insert id plugin }

/-- The ids of the plugins that can be loaded. -/
def available (m : Manager) : List String :=
  m.plugins.keys

def factory? (m : Manager) (id : FactoryId) : Option Factory :=
  (m.factories.find? fun (n, _) => n = id).map Prod.snd

/-- The factories registered for a contract, in order. -/
def registered (m : Manager) (kind : ContractKind) : List (FactoryId × Factory) :=
  m.registrations.filterMap fun (k, id) =>
    if k = kind then (m.factory? id).map (id, ·) else none

def hasFactory (m : Manager) (kind : ContractKind) : Bool :=
  m.registrations.any fun (k, _) => k = kind

/-- Registers a factory for a contract. One that decorates cannot be the first, pool drivers
apart, which never form chains. A refused registration changes nothing. -/
def register (m : Manager) (id : FactoryId) (factory : Factory) (kind : ContractKind) :
    Except Error Manager :=
  if kind ≠ .driver ∧ factory.decorates kind ∧ ¬ m.hasFactory kind then
    .error (.nothingToDecorate factory.plugin kind)
  else .ok { m with
    factories := if (m.factory? id).isSome then m.factories else m.factories ++ [(id, factory)]
    registrations := m.registrations ++ [(kind, id)] }

/-- Registers a factory for several contracts, in order, up to the first refusal. -/
def registerAll (id : FactoryId) (factory : Factory) : List Registration → Action Manager Unit
  | [] => pure ()
  | r :: rest => do
    let present ← Action.query fun m => .ok (m.hasFactory r.kind)
    if ¬ r.ifPresent ∨ present then
      Action.update fun m => do return ((), ← m.register id factory r.kind)
    registerAll id factory rest

/-- Loads a plugin. What a plugin registered before it failed stays registered. -/
def load (id : String) : Action Manager Unit := do
  match ← Action.query fun m => .ok (m.plugins.get? id) with
  | none => throw (.unknownPlugin id)
  | some plugin =>
    let outcome ← Action.attempt (
      match plugin with
      | .refuses e => throw e
      | .registers factory registrations => do
        let number ← Action.query fun m => .ok m.nextFactory
        modify fun m => { m with nextFactory := number + 1 }
        registerAll number factory registrations)
    match outcome with
    | .error e => throw (e.withContext ("loading plugin " ++ id))
    | .ok () => modify fun m => { m with loaded := m.loaded ++ [id] }

/-- Offers an option to the factories that it is for, in order; the answer tells whether one of
them took it. Those that do not know the key are passed over, any other refusal ends the round. -/
def offer (isFor : Factory → Bool) (key value : String) (taken : Bool) :
    List (FactoryId × Factory) → Except Error Bool × List (FactoryId × Factory)
  | [] => (.ok taken, [])
  | (id, factory) :: rest =>
    if isFor factory then
      match factory.configure key value with
      | .ok changed =>
        let (result, rest) := offer isFor key value true rest
        (result, (id, changed) :: rest)
      | .error e =>
        if e.kind = .unknownOption then
          let (result, rest) := offer isFor key value taken rest
          (result, (id, factory) :: rest)
        else (.error (e.withContext ("plugin " ++ factory.plugin)), (id, factory) :: rest)
    else
      let (result, rest) := offer isFor key value taken rest
      (result, (id, factory) :: rest)

/-- Offers an option and notes its value if it was taken; otherwise it is unknown. -/
def offerOption (isFor : Factory → Bool) (key value : String) (unknown : Error) :
    Action Manager Unit := fun m =>
  let (result, factories) := offer isFor key value false m.factories
  match result with
  | .error e => .error e { m with factories }
  | .ok false => .error unknown { m with factories }
  | .ok true => .ok () { m with factories, options := m.options.insert key value }

/-- Takes an option, of the manager itself or of any factory. -/
def configure (key value : String) : Action Manager Unit :=
  if key = writePlacement then
    Action.update fun m => do
      let policy ← PlacementPolicy.parse value
      return ((), { m with placement := { policy }, options := m.options.insert key value })
  else offerOption (fun _ => true) key value (.unknownOption key)

/-- Takes an option addressed to one plugin, which has to know it. -/
def configurePlugin (id key value : String) : Action Manager Unit := do
  let loaded ← Action.query fun m => .ok (m.factories.any fun (_, f) => f.plugin = id)
  if ¬ loaded then throw (.unknownPlugin id)
  offerOption (fun f => f.plugin = id) key value
    ((Error.unknownOption key).withContext ("plugin " ++ id))

/-- The last value that was taken for an option. -/
def option (m : Manager) (key : String) : Except Error String :=
  match m.options.get? key with
  | some value => .ok value
  | none => .error (.unknownOption key)

/-- The tables of a memory factory. -/
def memory (m : Manager) (id : FactoryId) : MemoryTables :=
  match m.factory? id with
  | some (.memory tables) => tables
  | _ => {}

/-- Puts other tables into the memory factory of that number. -/
def putTables (id : FactoryId) (tables : MemoryTables) :
    List (FactoryId × Factory) → List (FactoryId × Factory)
  | [] => []
  | (n, factory) :: rest =>
    if n = id then
      match factory with
      | .memory _ => (n, .memory tables) :: rest
      | other => (n, other) :: rest
    else (n, factory) :: putTables id tables rest

def setMemory (m : Manager) (id : FactoryId) (tables : MemoryTables) : Manager :=
  { m with factories := putTables id tables m.factories }

/-- Tables put where they were taken from change nothing, nor do tables without a memory factory to
go to. -/
theorem putTables_same {id : FactoryId} {tables : MemoryTables}
    {factories : List (FactoryId × Factory)}
    (same : ∀ {n : FactoryId} {other : MemoryTables},
      (factories.find? fun (n, _) => n = id) = some (n, .memory other) → other = tables) :
    putTables id tables factories = factories := by
  induction factories with
  | nil => rfl
  | cons pair rest ih =>
    obtain ⟨n, factory⟩ := pair
    unfold putTables
    by_cases here : n = id
    · rw [if_pos here]
      cases factory with
      | memory other =>
        have found : other = tables := same (n := n) (by simp [here])
        rw [found]
      | builtInCatalog | disk | profiler | librarian | custom => rfl
    · rw [if_neg here]
      have later : ∀ {n : FactoryId} {other : MemoryTables},
          (rest.find? fun (n, _) => n = id) = some (n, .memory other) → other = tables :=
        fun found => same (by simpa [here] using found)
      rw [ih later]

/-- The tables of a factory put back are the manager as it was. -/
theorem setMemory_memory (m : Manager) (id : FactoryId) : m.setMemory id (m.memory id) = m := by
  unfold setMemory
  rw [putTables_same]
  intro n other found
  unfold memory factory?
  rw [found]
  rfl

end Manager
end Stowage
