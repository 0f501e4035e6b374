import Mathlib.Data.List.Induction
import Mathlib.Data.List.TakeDrop
import Mathlib.Logic.Equiv.Basic
import Stowage.Proofs.Mirrors
import Stowage.Proofs.Tables

/-! What is left without profilers. A manager without them has the other factories, registered as they
were, and its factories may go by other numbers. It finds the same tables under the new numbers, and
composes the same chains: profilers are no innermost nodes, and never refuse to wrap a chain. -/
namespace Stowage

/-- Other numbers for factories. -/
abbrev Renumbering := Equiv.Perm FactoryId

/-- A node that measures. -/
def Decorator.profiles : Decorator → Bool
  | .profiler _ => true
  | _ => false

def Factory.profiles : Factory → Bool
  | .profiler _ => true
  | _ => false

/-- The part that a factory plays in chains. -/
inductive Role where
  /-- Makes drivers and innermost IO nodes for disk pools. -/
  | disks
  | profiler
  | other
  deriving DecidableEq

def Factory.role : Factory → Role
  | .disk _ => .disks
  | .profiler _ => .profiler
  | .builtInCatalog | .memory _ | .librarian | .custom _ => .other

theorem Factory.profiles_eq (factory : Factory) : factory.profiles = decide (factory.role = .profiler) := by
  cases factory <;> rfl

/-- What is left of decorators without profilers. -/
def Decorator.unprofiled (decorators : List Decorator) : List Decorator :=
  decorators.filter fun d => !d.profiles

theorem Decorator.unprofiled_cons (d : Decorator) (rest : List Decorator) :
    unprofiled (d :: rest) = if d.profiles then unprofiled rest else d :: unprofiled rest := by
  unfold unprofiled
  cases profiler : d.profiles <;> simp [profiler]

/-- The open file without the profilers around it. -/
def OpenFile.unprofiled (opened : OpenFile) : OpenFile :=
  { handle := opened.handle }

/-- The chain without its profilers, and with its innermost node seen in another way. -/
def Chain.unprofiled {τ : Type} (see : τ → τ) (chain : Chain τ) : Chain τ :=
  ⟨Decorator.unprofiled chain.decorators, see chain.base⟩

namespace Renumbering

variable (ρ : Renumbering)

def table : TableNode → TableNode
  | .memory id => .memory (ρ id)
  | .plain node => .plain node

/-- A chain over a table, without profilers. -/
def tables (chain : TableChain) : TableChain :=
  chain.unprofiled ρ.table

/-- The built-in catalog over a chain without profilers. -/
def catalog : CatalogNode → CatalogNode
  | .builtIn below session => .builtIn (below.map ρ.tables) session
  | .plain node => .plain node

end Renumbering

namespace Manager

/-- The number is that of a profiler. -/
def profiles (m : Manager) (id : FactoryId) : Bool :=
  (m.factory? id).any Factory.profiles

/-- The manager without its profilers, and with other numbers for its factories. -/
def unprofiled (ρ : Renumbering) (m : Manager) : Manager :=
  { m with
    factories := (m.factories.filter fun pair => !m.profiles pair.1).map fun pair =>
      (ρ pair.1, pair.2)
    registrations := (m.registrations.filter fun pair => !m.profiles pair.2).map fun pair =>
      (pair.1, ρ pair.2)
    nextFactory := 0
    loaded := m.loaded.filter (· ≠ "profiler") }

variable {ρ : Renumbering} {m : Manager} {id : FactoryId}

/-! ### Factories and their tables -/

theorem find_unprofiled (keep : FactoryId → Bool) (factories : List (FactoryId × Factory)) :
    (((factories.filter fun pair => keep pair.1).map fun pair => (ρ pair.1, pair.2)).find?
        fun (n, _) => n = ρ id).map Prod.snd =
      if keep id then (factories.find? fun (n, _) => n = id).map Prod.snd else none := by
  induction factories with
  | nil => simp
  | cons pair rest ih =>
    obtain ⟨n, factory⟩ := pair
    by_cases here : n = id
    · subst here
      cases kept : keep n with
      | true => simp [kept]
      | false => simpa [kept] using ih
    · cases kept : keep n <;> simpa [kept, here] using ih

/-- Under its new number there is the factory, unless it is a profiler. -/
theorem factory?_unprofiled :
    (m.unprofiled ρ).factory? (ρ id) = if m.profiles id then none else m.factory? id := by
  refine (find_unprofiled (fun n => !m.profiles n) m.factories).trans ?_
  cases m.profiles id <;> rfl

theorem memory_unprofiled : (m.unprofiled ρ).memory (ρ id) = m.memory id := by
  unfold memory
  rw [factory?_unprofiled]
  by_cases profiler : m.profiles id
  · rw [if_pos profiler]
    unfold profiles at profiler
    cases found : m.factory? id with
    | none => rfl
    | some factory =>
      rw [found] at profiler
      cases factory with
      | profiler => rfl
      | _ => cases profiler
  · rw [if_neg profiler]

theorem putTables_of_absent {tables : MemoryTables} {factories : List (FactoryId × Factory)}
    (absent : ∀ pair ∈ factories, pair.1 ≠ id) : putTables id tables factories = factories :=
  putTables_same fun found => absurd (by simpa using List.find?_some found)
    (absent _ (List.mem_of_find?_eq_some found))

theorem filter_putTables (keep : FactoryId → Bool) (tables : MemoryTables)
    (factories : List (FactoryId × Factory)) :
    (putTables id tables factories).filter (fun pair => keep pair.1) =
      putTables id tables (factories.filter fun pair => keep pair.1) := by
  induction factories with
  | nil => rfl
  | cons pair rest ih =>
    obtain ⟨n, factory⟩ := pair
    by_cases here : n = id
    · subst here
      cases kept : keep n with
      | true => cases factory <;> simp [putTables, kept]
      | false =>
        have absent : ∀ pair ∈ rest.filter fun pair => keep pair.1, pair.1 ≠ n := by
          intro pair member same
          simp [same, kept] at member
        cases factory <;> simp [putTables, kept, putTables_of_absent absent]
    · cases kept : keep n <;> simp [putTables, here, kept, ih]

theorem map_putTables (tables : MemoryTables) (factories : List (FactoryId × Factory)) :
    (putTables id tables factories).map (fun pair => (ρ pair.1, pair.2)) =
      putTables (ρ id) tables (factories.map fun pair => (ρ pair.1, pair.2)) := by
  induction factories with
  | nil => rfl
  | cons pair rest ih =>
    obtain ⟨n, factory⟩ := pair
    by_cases here : n = id
    · cases factory <;> simp [putTables, here]
    · simp [putTables, here, ih]

theorem profiles_setMemory (m : Manager) (id n : FactoryId) (tables : MemoryTables) :
    (m.setMemory id tables).profiles n = m.profiles n := by
  unfold profiles
  rw [factory?_setMemory]
  cases m.factory? n with
  | none => rfl
  | some factory =>
    by_cases here : n = id
    · cases factory <;> simp [here, Factory.withTables, Factory.profiles]
    · simp [here]

/-- Storing tables and leaving profilers out do not disturb each other. -/
theorem unprofiled_setMemory (tables : MemoryTables) :
    (m.setMemory id tables).unprofiled ρ = (m.unprofiled ρ).setMemory (ρ id) tables := by
  have same : (m.setMemory id tables).profiles = m.profiles :=
    funext fun n => m.profiles_setMemory id n tables
  unfold unprofiled
  rw [same]
  unfold setMemory
  rw [filter_putTables (fun n => !m.profiles n), map_putTables]

/-! ### Registrations -/

/-- A factory under its number, with its number changed. -/
def renumbered (ρ : Renumbering) (pair : FactoryId × Factory) : FactoryId × Factory :=
  (ρ pair.1, pair.2)

/-- The factories registered for a contract are the same ones, without the profilers. -/
theorem registered_unprofiled (kind : ContractKind) :
    (m.unprofiled ρ).registered kind =
      ((m.registered kind).filter fun pair => !pair.2.profiles).map (renumbered ρ) := by
  unfold registered unprofiled
  rw [List.filterMap_map, List.filterMap_filter, List.filter_filterMap, List.map_filterMap]
  congr 1
  funext pair
  obtain ⟨k, id⟩ := pair
  have looked : (m.unprofiled ρ).factory? (ρ id) = if m.profiles id then none else m.factory? id :=
    factory?_unprofiled
  unfold unprofiled at looked
  by_cases here : k = kind
  · simp only [Function.comp_apply, here, if_true, looked]
    have profiler : m.profiles id = (m.factory? id).any Factory.profiles := rfl
    cases found : m.factory? id with
    | none => cases m.profiles id <;> rfl
    | some factory =>
      rw [found] at profiler
      rw [profiler]
      cases measures : factory.profiles <;> simp [measures, renumbered]
  · simp [here]

end Manager

/-! ### Composition -/

section SplitAtBase

variable {φ ψ : Type} {decorates : φ → Bool}

/-- Whether the last one decorates decides whether it is the base. -/
theorem splitAtBase_concat (front : List φ) (last : φ) :
    splitAtBase decorates (front ++ [last]) =
      if decorates last then
        (splitAtBase decorates front).map fun split => (split.1, split.2 ++ [last])
      else some (last, []) := by
  unfold splitAtBase
  rw [List.reverse_append, List.reverse_singleton, List.singleton_append,
    List.span_eq_takeWhile_dropWhile, List.span_eq_takeWhile_dropWhile]
  cases decorated : decorates last with
  | true =>
    simp only [List.takeWhile_cons, List.dropWhile_cons, decorated, if_true]
    cases front.reverse.dropWhile decorates <;> simp
  | false => simp [decorated]

/-- Without some that decorate, the base is the same. -/
theorem splitAtBase_filter {keep : φ → Bool} (spared : ∀ f, keep f = false → decorates f = true)
    (factories : List φ) :
    splitAtBase decorates (factories.filter keep) =
      (splitAtBase decorates factories).map fun split => (split.1, split.2.filter keep) := by
  induction factories using List.reverseRecOn with
  | nil => rfl
  | append_singleton front last ih =>
    rw [List.filter_append, splitAtBase_concat]
    cases kept : keep last with
    | true =>
      simp only [List.filter_cons, List.filter_nil, kept, if_true, splitAtBase_concat, ih]
      cases decorates last with
      | true => cases splitAtBase decorates front <;> simp [kept]
      | false => rfl
    | false =>
      simp only [List.filter_cons, List.filter_nil, kept, spared last kept, if_true,
        Bool.false_eq_true, if_false, List.append_nil, ih]
      cases splitAtBase decorates front <;> simp [kept]

theorem splitAtBase_map {f : ψ → φ} (factories : List ψ) :
    splitAtBase decorates (factories.map f) =
      (splitAtBase (fun g => decorates (f g)) factories).map fun split =>
        (f split.1, split.2.map f) := by
  induction factories using List.reverseRecOn with
  | nil => rfl
  | append_singleton front last ih =>
    rw [List.map_append, List.map_singleton, splitAtBase_concat, splitAtBase_concat, ih]
    cases decorates (f last) with
    | true => cases splitAtBase (fun g => decorates (f g)) front <;> simp
    | false => rfl

end SplitAtBase

theorem Factory.decorates_of_profiles {factory : Factory} (profiler : factory.profiles = true)
    (kind : ContractKind) : factory.decorates kind = true := by
  cases factory with
  | profiler => rfl
  | _ => cases profiler

/-- What a factory that is no profiler wraps a chain in is no profiler. -/
theorem Factory.profiles_of_decorator {factory : Factory} {kind : ContractKind} {d : Decorator}
    (made : factory.decorator kind = .ok d) : d.profiles = factory.profiles := by
  cases factory with
  | profiler | librarian =>
    cases made
    rfl
  | custom factory =>
    obtain ⟨node, -, same⟩ := Error.bind_eq_ok_iff.1 made
    cases same
    rfl
  | _ => cases made

namespace Chain

variable {τ : Type} {see : τ → τ}

theorem unprofiled_wrap (d : Decorator) (chain : Chain τ) :
    (chain.wrap d).unprofiled see =
      if d.profiles then chain.unprofiled see else (chain.unprofiled see).wrap d := by
  unfold unprofiled wrap
  rw [Decorator.unprofiled_cons]
  cases d.profiles <;> rfl

end Chain

namespace Manager

variable {ρ : Renumbering} {m : Manager} {τ : Type} {see : τ → τ}

/-- Profilers wrap a chain without fail, so without them the same others wrap it. -/
theorem wrapAll_unprofiled (kind : ContractKind) (chain : Chain τ)
    (wrappers : List (FactoryId × Factory)) :
    wrapAll kind (chain.unprofiled see)
        ((wrappers.filter fun pair => !pair.2.profiles).map (renumbered ρ)) =
      (wrapAll kind chain wrappers).map (Chain.unprofiled see) := by
  induction wrappers generalizing chain with
  | nil => rfl
  | cons pair rest ih =>
    obtain ⟨id, factory⟩ := pair
    cases profiler : factory.profiles with
    | true =>
      cases factory with
      | profiler slowMs =>
        have same := ih (chain.wrap (.profiler slowMs))
        rw [Chain.unprofiled_wrap] at same
        exact same
      | _ => cases profiler
    | false =>
      have kept : ((id, factory) :: rest).filter (fun pair => !pair.2.profiles) =
          (id, factory) :: rest.filter fun pair => !pair.2.profiles := by simp [profiler]
      rw [kept, List.map_cons]
      unfold wrapAll renumbered
      dsimp only
      cases made : factory.decorator kind with
      | error e => rfl
      | ok d =>
        have same := ih (chain.wrap d)
        rw [Chain.unprofiled_wrap, Factory.profiles_of_decorator made, profiler] at same
        exact same

/-- A contract has the same chain without profilers, if its innermost nodes are made alike. -/
theorem compose_unprofiled (kind : ContractKind) {base image : FactoryId → Factory → Except Error τ}
    (made : ∀ id factory, image (ρ id) factory = (base id factory).map see) :
    (m.unprofiled ρ).compose kind image = (m.compose kind base).map (Chain.unprofiled see) := by
  have split : splitAtBase (fun pair => pair.2.decorates kind) ((m.unprofiled ρ).registered kind) =
      (splitAtBase (fun pair => pair.2.decorates kind) (m.registered kind)).map fun split =>
        (renumbered ρ split.1, (split.2.filter fun pair => !pair.2.profiles).map (renumbered ρ)) := by
    rw [registered_unprofiled, splitAtBase_map]
    refine (congrArg _ (splitAtBase_filter (fun pair profiler => ?_) _)).trans (Option.map_map ..)
    exact Factory.decorates_of_profiles (by simpa [renumbered] using profiler) kind
  unfold compose
  rw [split]
  cases splitAtBase (fun pair => pair.2.decorates kind) (m.registered kind) with
  | none => rfl
  | some split =>
    obtain ⟨⟨id, factory⟩, wrappers⟩ := split
    simp only [Option.map_some, renumbered, made]
    cases base id factory with
    | error e => rfl
    | ok node => exact wrapAll_unprofiled kind (Chain.single node) wrappers

/-! ### What a manager makes -/

theorem createTable_unprofiled (kind : ContractKind) :
    (m.unprofiled ρ).createTable kind = (m.createTable kind).map ρ.tables := by
  refine compose_unprofiled kind fun id factory => ?_
  cases factory with
  | custom factory =>
    simp only [Factory.tableNode]
    cases factory.node kind <;> rfl
  | _ => rfl

theorem orMissing_map {α β : Type} (f : α → β) (made : Except Error α) :
    orMissing (made.map f) = (orMissing made).map (Option.map f) := by
  cases made with
  | ok a => rfl
  | error e =>
    unfold orMissing Except.map
    dsimp only
    split <;> rfl

theorem createIo_unprofiled :
    (m.unprofiled ρ).createIo = m.createIo.map (Chain.unprofiled id) := by
  refine compose_unprofiled .io fun n factory => ?_
  cases factory.ioNode <;> rfl

theorem catalogNode_unprofiled (factory : Factory) :
    (m.unprofiled ρ).catalogNode factory = (m.catalogNode factory).map ρ.catalog := by
  cases factory with
  | builtInCatalog =>
    have below : orMissing (m.unprofiled ρ).createInode =
        (orMissing m.createInode).map (Option.map ρ.tables) :=
      (congrArg orMissing (createTable_unprofiled .inode)).trans (orMissing_map _ _)
    simp only [catalogNode, below]
    cases orMissing m.createInode <;> rfl
  | custom factory =>
    simp only [catalogNode]
    cases factory.node .catalog <;> rfl
  | _ => rfl

theorem createCatalog_unprofiled :
    (m.unprofiled ρ).createCatalog = m.createCatalog.map (Chain.unprofiled ρ.catalog) :=
  compose_unprofiled .catalog fun _ factory => catalogNode_unprofiled factory

/-- Profilers make no drivers. -/
theorem createDriver_unprofiled (type : String) :
    (m.unprofiled ρ).createDriver type = m.createDriver type := by
  have same : ((m.unprofiled ρ).registered .driver).reverse.find?
        (fun pair => pair.2.poolType? = some type) =
      ((m.registered .driver).reverse.find? fun pair => pair.2.poolType? = some type).map
        (renumbered ρ) := by
    rw [registered_unprofiled, ← List.map_reverse, ← List.filter_reverse, List.find?_map,
      List.find?_filter]
    congr 2
    funext ⟨n, factory⟩
    cases factory <;> simp [renumbered, Factory.profiles, Factory.poolType?]
  unfold createDriver
  rw [same]
  cases (m.registered .driver).reverse.find? fun pair => pair.2.poolType? = some type <;> rfl

end Manager

end Stowage
