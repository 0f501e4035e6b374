import Stowage.Proofs.Preparations

/-! What storing a table changes. The tables of a memory factory are what was stored last; every other
factory is as it was, the ones for drivers among them. -/
namespace Stowage

/-- A memory factory with other tables; any other factory is left as it is. -/
def Factory.withTables (tables : MemoryTables) : Factory → Factory
  | .memory _ => .memory tables
  | other => other

namespace Manager

variable {m : Manager} {id n : FactoryId} {tables : MemoryTables}

theorem find_putTables (factories : List (FactoryId × Factory)) :
    ((putTables id tables factories).find? fun (k, _) => k = n).map Prod.snd =
      ((factories.find? fun (k, _) => k = n).map Prod.snd).map
        fun factory => if n = id then factory.withTables tables else factory := by
  induction factories with
  | nil => rfl
  | cons pair rest ih =>
    obtain ⟨k, factory⟩ := pair
    unfold putTables
    by_cases here : k = id
    · subst here
      rw [if_pos rfl]
      by_cases looked : k = n
      · subst looked
        cases factory <;> simp [Factory.withTables]
      · have other : ¬ n = k := fun same => looked same.symm
        simp only [other, if_false, Option.map_id']
        cases factory <;> simp [looked]
    · rw [if_neg here]
      by_cases looked : k = n
      · subst looked
        simp [here]
      · simpa [looked] using ih

/-- Storing tables changes the one factory that they go to, and that only if it is for tables. -/
theorem factory?_setMemory (m : Manager) (id n : FactoryId) (tables : MemoryTables) :
    (m.setMemory id tables).factory? n =
      (m.factory? n).map fun factory => if n = id then factory.withTables tables else factory :=
  find_putTables m.factories

/-- What a memory factory holds is what was stored last; without one, storing does nothing. -/
theorem memory_setMemory (m : Manager) (id : FactoryId) (tables : MemoryTables) :
    (m.setMemory id tables).memory id = tables ∨
      m.memory id = {} ∧ (m.setMemory id tables).memory id = {} := by
  unfold memory
  rw [factory?_setMemory]
  cases m.factory? id with
  | none => exact .inr ⟨rfl, rfl⟩
  | some factory => cases factory <;> simp [Factory.withTables]

theorem memory_setMemory_of_held {held : MemoryTables}
    (factory : m.factory? id = some (.memory held)) : (m.setMemory id tables).memory id = tables := by
  unfold memory
  rw [factory?_setMemory, factory]
  simp [Factory.withTables]

theorem memory_setMemory_of_ne (other : n ≠ id) : (m.setMemory id tables).memory n = m.memory n := by
  unfold memory
  rw [factory?_setMemory]
  simp [other]

/-- A factory under its number, with other tables if it is the one that they go to. -/
def retabled (id : FactoryId) (tables : MemoryTables) (pair : FactoryId × Factory) :
    FactoryId × Factory :=
  (pair.1, if pair.1 = id then pair.2.withTables tables else pair.2)

/-- The factories that are registered are the same, but for tables. -/
theorem registered_setMemory (m : Manager) (id : FactoryId) (tables : MemoryTables)
    (kind : ContractKind) :
    (m.setMemory id tables).registered kind = (m.registered kind).map (retabled id tables) := by
  have each : ∀ registration : ContractKind × FactoryId,
      (if registration.1 = kind then
          ((m.setMemory id tables).factory? registration.2).map (registration.2, ·) else none) =
        (if registration.1 = kind then
          (m.factory? registration.2).map (registration.2, ·) else none).map (retabled id tables) := by
    rintro ⟨k, number⟩
    by_cases same : k = kind
    · simp only [same, if_true, factory?_setMemory]
      cases m.factory? number <;> rfl
    · simp [same]
  unfold registered
  rw [List.map_filterMap]
  exact congrArg (m.registrations.filterMap ·) (funext each)

/-- Drivers are made by factories that hold no tables. -/
theorem createDriver_setMemory (m : Manager) (id : FactoryId) (tables : MemoryTables)
    (type : String) : (m.setMemory id tables).createDriver type = m.createDriver type := by
  have kept : ∀ factory : Factory, (factory.withTables tables).poolType? = factory.poolType? := by
    intro factory
    cases factory <;> rfl
  have serves : ((fun pair : FactoryId × Factory => decide (pair.2.poolType? = some type)) ∘
      retabled id tables) = fun pair => decide (pair.2.poolType? = some type) := by
    funext ⟨n, factory⟩
    by_cases here : n = id <;> simp [retabled, here, kept]
  unfold createDriver
  rw [registered_setMemory, ← List.map_reverse, List.find?_map, serves]
  cases found : (m.registered .driver).reverse.find?
      fun pair => decide (pair.2.poolType? = some type) with
  | none => rfl
  | some pair =>
    obtain ⟨n, factory⟩ := pair
    have served := List.find?_some found
    by_cases here : n = id
    · cases factory <;> simp_all [retabled, Factory.withTables, Factory.poolType?]
    · simp [retabled, here]

/-- Where only factories for disk pools make drivers, storing tables leaves it at that. -/
theorem disks_setMemory (makes : ∀ pair ∈ m.registered .driver, ∃ options, pair.2 = .disk options) :
    ∀ pair ∈ (m.setMemory id tables).registered .driver, ∃ options, pair.2 = .disk options := by
  intro pair member
  rw [registered_setMemory] at member
  obtain ⟨⟨n, factory⟩, before, rfl⟩ := List.mem_map.1 member
  obtain ⟨options, made⟩ := makes _ before
  obtain rfl : factory = .disk options := made
  exact ⟨options, by by_cases here : n = id <;> simp [retabled, here, Factory.withTables]⟩

end Manager

namespace Site

variable {site : Site} {id n : FactoryId} {ns : Namespace} {pools : PoolTable}

/-- A namespace that is stored is there to be seen, unless there is no factory to keep it. -/
theorem namespace_putNamespace (id : FactoryId) (ns : Namespace) (site : Site) :
    (site.putNamespace id ns).namespace_ id = ns ∨
      site.namespace_ id = .initial ∧ (site.putNamespace id ns).namespace_ id = .initial := by
  unfold putNamespace namespace_
  rcases site.manager.memory_setMemory id { site.manager.memory id with namespace_ := ns } with
    stored | ⟨none_, still⟩
  · exact .inl (congrArg MemoryTables.namespace_ stored)
  · exact .inr ⟨congrArg MemoryTables.namespace_ none_, congrArg MemoryTables.namespace_ still⟩

theorem namespace_putNamespace_of_ne (other : n ≠ id) :
    (site.putNamespace id ns).namespace_ n = site.namespace_ n :=
  congrArg MemoryTables.namespace_ (Manager.memory_setMemory_of_ne other)

/-- A part of the tables that is stored as it was is as it was, in every memory factory. -/
theorem memory_of_stored (site : Site) (id n : FactoryId) (tables : MemoryTables) {α : Type}
    (part : MemoryTables → α) (same : part tables = part (site.manager.memory id)) :
    part ((site.manager.setMemory id tables).memory n) = part (site.manager.memory n) := by
  by_cases here : n = id
  · subst here
    rcases site.manager.memory_setMemory n tables with stored | ⟨none_, still⟩
    · rw [stored, same]
    · rw [still, none_]
  · rw [Manager.memory_setMemory_of_ne here]

/-- Storing pools leaves the namespaces alone. -/
theorem namespace_putPools (site : Site) : (site.putPools id pools).namespace_ n = site.namespace_ n :=
  site.memory_of_stored id n _ MemoryTables.namespace_ rfl

/-- Storing a namespace leaves the pools alone. -/
theorem pools_putNamespace (site : Site) :
    ((site.putNamespace id ns).manager.memory n).pools = (site.manager.memory n).pools :=
  site.memory_of_stored id n _ MemoryTables.pools rfl

/-- Where there are pools, there is a factory to keep them. -/
theorem pools_putPools {name : String}
    (there : (site.manager.memory id).pools.contains name = true) :
    ((site.putPools id pools).manager.memory id).pools = pools := by
  rcases site.manager.memory_setMemory id { site.manager.memory id with pools } with
    stored | ⟨none_, -⟩
  · exact congrArg MemoryTables.pools stored
  · rw [none_] at there
    cases there

end Site

end Stowage
