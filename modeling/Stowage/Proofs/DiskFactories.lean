import Mathlib.Data.List.Basic
import Stowage.Proofs.ProfiledSettings

/-! Factories for disk pools. The plugin for disk pools registers one factory twice, for the drivers of its
pools and for access to their files. The factory that was registered last makes both, whatever is loaded and
set in between, and so the driver that issues a token and the node that checks it are made with the same
settings. -/
namespace Stowage

namespace Manager

variable {m n after : Manager} {id : FactoryId} {factory : Factory} {kind : ContractKind}

/-! ### Rosters -/

/-- The factories that are registered for a contract: their numbers and the parts that they play. -/
def roster (m : Manager) (kind : ContractKind) : List (FactoryId × Role) :=
  (m.registered kind).map flagged

/-- The part that the factory with this number plays. -/
def role? (m : Manager) (id : FactoryId) : Option Role :=
  (m.factory? id).map Factory.role

/-- What a registration brings to the roster of a contract. -/
def listed? (m : Manager) (kind : ContractKind) (registration : ContractKind × FactoryId) :
    Option (FactoryId × Role) :=
  if registration.1 = kind then (m.role? registration.2).map (registration.2, ·) else none

theorem roster_eq (m : Manager) (kind : ContractKind) :
    m.roster kind = m.registrations.filterMap (m.listed? kind) := by
  unfold roster registered
  rw [List.map_filterMap]
  refine congrArg (m.registrations.filterMap ·) (funext fun ⟨k, id⟩ => ?_)
  unfold listed? role?
  by_cases here : k = kind
  · simp only [here, if_true]
    cases m.factory? id <;> rfl
  · simp [here]

theorem role?_of_flagged (same : n.factories.map flagged = m.factories.map flagged) (id : FactoryId) :
    n.role? id = m.role? id := by
  have read (m : Manager) : m.role? id =
      ((m.factories.map flagged).find? fun pair => pair.1 = id).map Prod.snd := by
    rw [find_flagged]
    unfold role? factory?
    rw [Option.map_map, Option.map_map]
    rfl
  rw [read, read, same]

theorem roster_of_retuned (retuned : Retuned m n) (kind : ContractKind) :
    n.roster kind = m.roster kind := by
  have same : n.listed? kind = m.listed? kind := by
    funext registration
    unfold listed?
    rw [role?_of_flagged retuned.flagged]
  rw [roster_eq, roster_eq, same, retuned.registrations]

theorem roster_setMemory (m : Manager) (id : FactoryId) (tables : MemoryTables) (kind : ContractKind) :
    (m.setMemory id tables).roster kind = m.roster kind := by
  have same : flagged ∘ retabled id tables = flagged := by
    funext ⟨n, factory⟩
    by_cases here : n = id
    · cases factory <;> simp [flagged, retabled, here, Factory.withTables, Factory.role]
    · simp [flagged, retabled, here]
  unfold roster
  rw [registered_setMemory, List.map_map, same]

/-- A factory that is registered comes last. -/
theorem Enlists.roster_register (enlists : Enlists id factory m)
    (done : m.register id factory kind = .ok after) (k : ContractKind) :
    after.roster k = m.roster k ++ if kind = k then [(id, factory.role)] else [] := by
  have kept : ∀ pair ∈ m.registrations, after.listed? k pair = m.listed? k pair := by
    intro pair member
    obtain ⟨held, found⟩ := Option.isSome_iff_exists.1 (enlists.present pair member)
    unfold listed? role?
    rw [factory?_register done, found]
    rfl
  have own : after.role? id = some factory.role := by
    unfold role?
    rw [factory?_register done, if_pos rfl]
    cases held : m.factory? id with
    | none => rfl
    | some other => exact congrArg some (enlists.suits other held)
  have same : after.registrations = m.registrations ++ [(kind, id)] := by rw [register_eq_ok done]
  rw [roster_eq, roster_eq, same, List.filterMap_append, List.filterMap_congr kept]
  by_cases here : kind = k <;> simp [listed?, here, own]

/-! ### Drivers and IO nodes -/

/-- The factories for drivers are those for disk pools, registered in the order in which they are for IO. -/
def PairsDisks (m : Manager) : Prop :=
  m.roster .driver = (m.roster .io).filter fun entry => entry.2 = .disks

theorem PairsDisks.congr (pairs : m.PairsDisks) (same : ∀ kind, n.roster kind = m.roster kind) :
    n.PairsDisks := by
  unfold PairsDisks
  rw [same, same]
  exact pairs

theorem pairsDisks_initial : initial.PairsDisks := rfl

/-- A factory that is not for disk pools may be registered for anything but drivers. -/
theorem Enlists.pairsDisks_register (enlists : Enlists id factory m) (pairs : m.PairsDisks)
    (other : factory.role ≠ .disks) (apart : kind ≠ .driver)
    (done : m.register id factory kind = .ok after) : after.PairsDisks := by
  unfold PairsDisks
  rw [enlists.roster_register done, enlists.roster_register done, if_neg apart, List.append_nil,
    List.filter_append, pairs]
  by_cases io : kind = .io <;> simp [io, other]

theorem Enlists.pairsDisks_registerAll {registrations : List Registration} (enlists : Enlists id factory m)
    (pairs : m.PairsDisks) (other : factory.role ≠ .disks)
    (apart : ∀ r ∈ registrations, r.kind ≠ .driver) :
    ((Manager.registerAll id factory registrations).outcome m).2.PairsDisks := by
  induction registrations generalizing m with
  | nil => exact pairs
  | cons r rest ih =>
    obtain ⟨here, later⟩ := List.forall_mem_cons.1 apart
    rw [registerAll_cons]
    split
    · cases made : m.register id factory r.kind with
      | error e => exact pairs
      | ok after =>
        exact ih (enlists.register (fun _ => here) made)
          (enlists.pairsDisks_register pairs other here made) later
    · exact ih enlists pairs later

/-- A factory for disk pools goes to both rosters. -/
theorem Enlists.pairsDisks_disk {options : TokenOptions} (enlists : Enlists id (.disk options) m)
    (pairs : m.PairsDisks) :
    ((Manager.registerAll id (.disk options) [{ kind := .driver }, { kind := .io }]).outcome m).2.PairsDisks := by
  have accepted (m : Manager) (kind : ContractKind) :
      ∃ after, m.register id (.disk options) kind = .ok after :=
    ⟨_, if_neg fun ⟨_, decorates, _⟩ => Bool.false_ne_true decorates⟩
  obtain ⟨first, driven⟩ := accepted m .driver
  obtain ⟨second, opened⟩ := accepted first .io
  have enlisted := enlists.register nofun driven
  have run : ((Manager.registerAll id (.disk options) [{ kind := .driver }, { kind := .io }]).outcome m).2 =
      second := by
    rw [registerAll_cons, if_pos (.inl Bool.false_ne_true), driven]
    dsimp only
    rw [registerAll_cons, if_pos (.inl Bool.false_ne_true), opened]
    rfl
  unfold PairsDisks
  rw [run, enlisted.roster_register opened, enlisted.roster_register opened, enlists.roster_register driven,
    enlists.roster_register driven, pairs]
  simp [Factory.role]

/-! ### Settings -/

instance : Action.Frame Retuned where
  refl _ := ⟨rfl, rfl, rfl, rfl⟩
  trans first second := ⟨second.flagged.trans first.flagged, second.registrations.trans first.registrations,
    second.nextFactory.trans first.nextFactory, second.plugins.trans first.plugins⟩

theorem retuned_offerOption (isFor : Factory → Bool) (key value : String) (unknown : Error) :
    Action.Keeps Retuned (offerOption isFor key value unknown) := by
  intro m
  have flags : (offer isFor key value false m.factories).2.map flagged = m.factories.map flagged :=
    flagged_offer false m.factories
  rw [outcome_offerOption]
  rcases (offer isFor key value false m.factories).1 with e | _ | _ <;> exact ⟨flags, rfl, rfl, rfl⟩

theorem retuned_configure (key value : String) : Action.Keeps Retuned (configure key value) := by
  unfold configure
  split
  · intro m
    cases PlacementPolicy.parse value <;> exact ⟨rfl, rfl, rfl, rfl⟩
  · exact retuned_offerOption _ key value _

theorem retuned_configurePlugin (plugin key value : String) :
    Action.Keeps Retuned (configurePlugin plugin key value) :=
  (Action.reads_query _).keeps.bind fun _ => .guarded (retuned_offerOption _ key value _)

/-- The manager is in order, and has its factories for disk pools in pairs. -/
structure Furnished (m : Manager) : Prop extends Orderly m where
  pairs : m.PairsDisks

theorem Furnished.retuned (furnished : m.Furnished) (retuned : Retuned m n) : n.Furnished :=
  ⟨furnished.toOrderly.retuned retuned, furnished.pairs.congr (roster_of_retuned retuned)⟩

/-- Loading a plugin keeps the pairs. -/
theorem Furnished.load (furnished : m.Furnished) (plugin : String) :
    ((load plugin).outcome m).2.Furnished := by
  have left {factory : Factory} {registrations : List Registration}
      (found : m.plugins.get? plugin = some (.registers factory registrations))
      (chained : factory.profiles = true → ∀ r ∈ registrations, r.kind ≠ .driver)
      (pairs : ((registerAll m.nextFactory factory registrations).outcome m.numbering).2.PairsDisks) :
      ((Manager.load plugin).outcome m).2.Furnished := by
    have order := ((furnished.toOrderly.enlists factory).registerAll chained).toOrderly
    rw [load_of_registers found]
    generalize (registerAll m.nextFactory factory registrations).outcome m.numbering = done at order pairs
    obtain ⟨e | _, after⟩ := done
    · exact ⟨order, pairs⟩
    · exact ⟨order.noting plugin, pairs⟩
  have known := get?_bundled plugin
  rw [← furnished.plugins] at known
  have enlists := furnished.toOrderly.enlists
  split at known
  · exact left known nofun
      ((enlists _).pairsDisks_registerAll furnished.pairs (by decide) (by decide))
  split at known
  · exact left known (fun _ => by decide)
      ((enlists _).pairsDisks_registerAll furnished.pairs (by decide) (by decide))
  split at known
  · exact left known nofun ((enlists _).pairsDisks_disk furnished.pairs)
  split at known
  · exact left known nofun
      ((enlists _).pairsDisks_registerAll furnished.pairs (fun disks => by cases disks) (by decide))
  · rw [load_of_none known]
    exact furnished

theorem Furnished.act (furnished : m.Furnished) (setting : Setting) :
    (setting.act.outcome m).2.Furnished := by
  cases setting with
  | load plugin => exact furnished.load plugin
  | option key value => exact furnished.retuned (retuned_configure key value m)
  | optionOf plugin key value => exact furnished.retuned (retuned_configurePlugin plugin key value m)

/-- Whatever a manager is told, it has its factories for disk pools in pairs. -/
theorem furnished_run (settings : List Setting) : (Setting.run settings .initial).2.Furnished := by
  have from_ {m : Manager} (furnished : m.Furnished) : (Setting.run settings m).2.Furnished := by
    induction settings generalizing m with
    | nil => exact furnished
    | cons setting rest ih => exact ih (furnished.act setting)
  exact from_ ⟨orderly_initial, pairsDisks_initial⟩

/-! ### What the pairs make -/

/-- The base is the last one that does not decorate. -/
theorem splitAtBase_eq_some {φ : Type} {decorates : φ → Bool} {factories wrappers : List φ} {base : φ}
    (split : splitAtBase decorates factories = some (base, wrappers)) :
    ∃ front, factories = front ++ base :: wrappers ∧ decorates base = false ∧
      ∀ wrapper ∈ wrappers, decorates wrapper = true := by
  induction factories using List.reverseRecOn generalizing wrappers with
  | nil => cases split
  | append_singleton front last ih =>
    rw [splitAtBase_concat] at split
    cases wraps : decorates last with
    | true =>
      rw [wraps, if_pos rfl] at split
      obtain ⟨⟨base', inner⟩, earlier, same⟩ := Option.map_eq_some_iff.1 split
      cases same
      obtain ⟨ahead, rfl, plain, others⟩ := ih earlier
      refine ⟨ahead, by simp, plain, List.forall_mem_append.2 ⟨others, ?_⟩⟩
      exact List.forall_mem_singleton.2 wraps
    | false =>
      rw [wraps] at split
      cases split
      exact ⟨front, rfl, wraps, nofun⟩

theorem base_of_wrapAll {τ : Type} {chain wrapped : Chain τ} {wrappers : List (FactoryId × Factory)}
    (made : wrapAll kind chain wrappers = .ok wrapped) : wrapped.base = chain.base := by
  induction wrappers generalizing chain with
  | nil =>
    cases made
    rfl
  | cons pair rest ih =>
    obtain ⟨decorator, -, made⟩ := Error.bind_eq_ok_iff.1 made
    exact (ih made).trans rfl

/-- A chain for IO with local files inside is made by the last factory that does not decorate, one for disk
pools. -/
theorem createIo_eq_ok {chain : Chain IoNode} {files : LocalFiles} (made : m.createIo = .ok chain)
    (inside : chain.base = .localFiles files) :
    ∃ front id options wrappers, m.registered .io = front ++ (id, .disk options) :: wrappers ∧
      (∀ pair ∈ wrappers, pair.2.decorates .io = true) ∧ options.settings = .ok files.settings := by
  unfold createIo compose at made
  split at made
  · cases made
  · rename_i id factory wrappers split_
    obtain ⟨node, based, wrapped⟩ := Error.bind_eq_ok_iff.1 made
    obtain rfl : node = .localFiles files := (base_of_wrapAll wrapped).symm.trans inside
    obtain ⟨front, same, -, others⟩ := splitAtBase_eq_some split_
    cases factory with
    | disk options =>
      obtain ⟨settings, taken, built⟩ := Error.bind_eq_ok_iff.1 based
      cases built
      exact ⟨front, id, options, wrappers, same, others, taken⟩
    | custom factory =>
      obtain ⟨_, -, built⟩ := Error.bind_eq_ok_iff.1 based
      cases built
    | builtInCatalog | memory | profiler | librarian => cases based

/-- The settings that a driver for disk pools is made with. -/
def Gives (m : Manager) (settings : TokenSettings) : Prop :=
  m.createDriver DiskDriver.poolType = .ok (.disk { settings })

theorem Gives.unique {settings others : TokenSettings} (gives : m.Gives settings) (again : m.Gives others) :
    others = settings := by
  cases gives.symm.trans again
  rfl

theorem factory?_of_registered {pair : FactoryId × Factory} (member : pair ∈ m.registered kind) :
    m.factory? pair.1 = some pair.2 := by
  obtain ⟨⟨k, id⟩, -, found⟩ := List.mem_filterMap.1 member
  dsimp only at found
  split at found
  · obtain ⟨factory, held, rfl⟩ := Option.map_eq_some_iff.1 found
    exact held
  · cases found

/-- The driver for disk pools and the node inside an IO chain for local files are made with the same
settings. -/
theorem PairsDisks.gives (pairs : m.PairsDisks) {chain : Chain IoNode} {files : LocalFiles}
    (made : m.createIo = .ok chain) (inside : chain.base = .localFiles files) :
    m.Gives files.settings := by
  obtain ⟨front, id, options, wrappers, io, decorate, taken⟩ := createIo_eq_ok made inside
  have wraps : (wrappers.map flagged).filter (fun entry => entry.2 = .disks) = [] := by
    refine List.filter_eq_nil_iff.2 fun entry member disks => ?_
    obtain ⟨⟨n, factory⟩, wrapper, rfl⟩ := List.mem_map.1 member
    have decorates := decorate _ wrapper
    cases factory with
    | disk options => cases decorates
    | builtInCatalog | memory | profiler | librarian | custom =>
      simp [flagged, Factory.role] at disks
  have last :
      m.roster .driver = ((front.map flagged).filter fun entry => entry.2 = .disks) ++ [(id, .disks)] := by
    rw [pairs, roster, io, List.map_append, List.map_cons, List.filter_append]
    simp [flagged, Factory.role, wraps]
  obtain ⟨earlier, own, drivers, -, same⟩ := List.map_eq_append_iff.1 last
  obtain ⟨pair, none_, rfl, number, rest⟩ := List.map_eq_cons_iff.1 same
  obtain rfl := List.map_eq_nil_iff.1 rest
  -- Both rosters name one number, and so one factory.
  have driver : m.factory? id = some pair.2 := by
    have member : pair ∈ m.registered .driver := by simp [drivers]
    have found := factory?_of_registered member
    rwa [← (Prod.mk.inj number).1]
  have opener : m.factory? id = some (.disk options) := by
    have member : (id, .disk options) ∈ m.registered .io := by simp [io]
    exact factory?_of_registered member
  have disk : pair.2 = .disk options := Option.some.inj (driver.symm.trans opener)
  unfold Gives createDriver
  rw [drivers, List.reverse_append, List.reverse_singleton, List.singleton_append, List.find?_cons_of_pos]
  · dsimp only
    rw [disk]
    exact Error.bind_eq_ok_iff.2 ⟨_, taken, rfl⟩
  · simp [disk, Factory.poolType?]

/-- Factories for drivers are those for disk pools. -/
theorem PairsDisks.makes (pairs : m.PairsDisks) :
    ∀ pair ∈ m.registered .driver, ∃ options, pair.2 = .disk options := by
  intro pair member
  have listed : flagged pair ∈ m.roster .driver := List.mem_map_of_mem member
  rw [pairs] at listed
  have role : pair.2.role = .disks := of_decide_eq_true (List.mem_filter.1 listed).2
  cases made : pair.2 with
  | disk options => exact ⟨options, rfl⟩
  | builtInCatalog | memory | profiler | librarian | custom =>
    rw [made] at role
    cases role

end Manager
end Stowage
