import Stowage.Proofs.Unprofiled

/-! Managers that are set up with and without profilers. A profiler can be loaded at any time: it wraps
what is there, and what a manager is without profilers it stays. Every other setting does the same to
two managers that are alike without profilers, whatever numbers their factories go by, so that a manager
is set up alike however many profilers are loaded in between. -/
namespace Stowage

namespace Manager

variable {ρ : Renumbering} {m after : Manager} {id n : FactoryId} {factory : Factory}
  {kind : ContractKind}

/-! ### Registering a factory -/

theorem register_eq_ok (done : m.register id factory kind = .ok after) :
    after = { m with
      factories := if (m.factory? id).isSome then m.factories else m.factories ++ [(id, factory)]
      registrations := m.registrations ++ [(kind, id)] } := by
  unfold register at done
  split at done
  · cases done
  · cases done
    rfl

theorem factory?_register (done : m.register id factory kind = .ok after) (n : FactoryId) :
    after.factory? n = (m.factory? n).or (if n = id then some factory else none) := by
  rw [register_eq_ok done]
  cases held : m.factory? id with
  | some other =>
    change m.factory? n = _
    by_cases here : n = id
    · rw [here, held]
      rfl
    · rw [if_neg here, Option.or_none]
  | none =>
    change ((m.factories ++ [(id, factory)]).find? fun pair => pair.1 = n).map Prod.snd =
      ((m.factories.find? fun pair => pair.1 = n).map Prod.snd).or _
    rw [List.find?_append]
    cases m.factories.find? fun pair => pair.1 = n with
    | some pair => rfl
    | none => by_cases here : id = n <;> simp [here, eq_comm]

theorem isSome_factory? {pair : FactoryId × Factory} (member : pair ∈ m.factories) :
    (m.factory? pair.1).isSome = true := by
  unfold factory?
  rw [Option.isSome_map, List.find?_isSome]
  exact ⟨pair, member, by simp⟩

/-- Numbers that have a factory keep it. -/
theorem profiles_register (done : m.register id factory kind = .ok after)
    (held : (m.factory? n).isSome = true) : after.profiles n = m.profiles n := by
  unfold profiles
  rw [factory?_register done]
  obtain ⟨factory, found⟩ := Option.isSome_iff_exists.1 held
  rw [found]
  rfl

/-- The number is free, or that of such a factory. -/
def Suits (m : Manager) (id : FactoryId) (factory : Factory) : Prop :=
  ∀ other, m.factory? id = some other → other.role = factory.role

theorem Suits.profiles {other : Factory} (suits : m.Suits id factory)
    (held : m.factory? id = some other) : other.profiles = factory.profiles := by
  rw [other.profiles_eq, factory.profiles_eq, suits other held]

/-- Bundled plugins register their factories so. Every number is in use, every registration is for a
factory, one number is not for a profiler and for something else, and profilers wrap what is there. -/
structure Orderly (m : Manager) : Prop where
  plugins : m.plugins = bundled
  numbered : ∀ pair ∈ m.factories, pair.1 < m.nextFactory
  single : ∀ pair ∈ m.factories, m.profiles pair.1 = pair.2.profiles
  present : ∀ pair ∈ m.registrations, (m.factory? pair.2).isSome = true
  grounded : ∀ kind, m.hasFactory kind = true →
    ∃ id, (kind, id) ∈ m.registrations ∧ m.profiles id = false
  browses : m.hasFactory .catalog = true

/-- What a manager has to be like for a factory to register itself under a number. -/
structure Enlists (id : FactoryId) (factory : Factory) (m : Manager) : Prop extends Orderly m where
  low : id < m.nextFactory
  suits : m.Suits id factory

theorem Enlists.profiles_own (enlists : Enlists id factory m)
    (done : m.register id factory kind = .ok after) :
    after.profiles id = factory.profiles := by
  unfold profiles
  rw [factory?_register done]
  cases held : m.factory? id with
  | none => simp
  | some other => exact enlists.suits.profiles held

theorem mem_factories_register (done : m.register id factory kind = .ok after)
    {pair : FactoryId × Factory} (member : pair ∈ after.factories) :
    pair ∈ m.factories ∨ pair = (id, factory) := by
  rw [register_eq_ok done] at member
  cases held : (m.factory? id).isSome with
  | true => exact .inl (by simpa [held] using member)
  | false => simpa [held] using member

/-- What is registered stays, and the factory is registered for one contract more. -/
theorem mem_registrations_register (done : m.register id factory kind = .ok after)
    {pair : ContractKind × FactoryId} :
    pair ∈ after.registrations ↔ pair ∈ m.registrations ∨ pair = (kind, id) := by
  rw [register_eq_ok done]
  simp

theorem hasFactory_iff : m.hasFactory kind = true ↔ ∃ id, (kind, id) ∈ m.registrations := by
  unfold hasFactory
  rw [List.any_eq_true]
  constructor
  · rintro ⟨⟨k, id⟩, member, same⟩
    obtain rfl : k = kind := by simpa using same
    exact ⟨id, member⟩
  · rintro ⟨id, member⟩
    exact ⟨_, member, by simp⟩

theorem isSome_register (done : m.register id factory kind = .ok after)
    (held : (m.factory? n).isSome = true) : (after.factory? n).isSome = true := by
  rw [factory?_register done, Option.isSome_or, held]
  rfl

theorem isSome_of_register (done : m.register id factory kind = .ok after) :
    (after.factory? id).isSome = true := by
  rw [factory?_register done, if_pos rfl, Option.isSome_or, Option.isSome_some, Bool.or_true]

/-- A factory that decorates is registered only where there is one already. -/
theorem hasFactory_of_register (decorates : factory.decorates kind = true) (chained : kind ≠ .driver)
    (done : m.register id factory kind = .ok after) : m.hasFactory kind = true := by
  unfold register at done
  split at done
  · cases done
  · rename_i accepted
    simpa [decorates, chained] using accepted

theorem Enlists.register (enlists : Enlists id factory m)
    (chained : factory.profiles = true → kind ≠ .driver)
    (done : m.register id factory kind = .ok after) : Enlists id factory after := by
  have own := enlists.profiles_own done
  have numbers : after.nextFactory = m.nextFactory := by rw [register_eq_ok done]
  have old {k : ContractKind} (before : m.hasFactory k = true) :
      ∃ n, (k, n) ∈ after.registrations ∧ after.profiles n = false := by
    obtain ⟨n, member, measures⟩ := enlists.grounded k before
    refine ⟨n, (mem_registrations_register done).2 (.inl member), ?_⟩
    rw [profiles_register done (enlists.present _ member), measures]
  refine ⟨⟨?_, ?_, ?_, ?_, ?_, ?_⟩, ?_, ?_⟩
  · rw [register_eq_ok done]
    exact enlists.plugins
  · intro pair member
    rw [numbers]
    rcases mem_factories_register done member with before | rfl
    · exact enlists.numbered pair before
    · exact enlists.low
  · intro pair member
    rcases mem_factories_register done member with before | rfl
    · rw [profiles_register done (isSome_factory? before), enlists.single pair before]
    · exact own
  · intro pair member
    rcases (mem_registrations_register done).1 member with before | rfl
    · exact isSome_register done (enlists.present pair before)
    · exact isSome_of_register done
  · intro k there
    obtain ⟨n, member⟩ := hasFactory_iff.1 there
    rcases (mem_registrations_register done).1 member with before | same
    · exact old (hasFactory_iff.2 ⟨n, before⟩)
    · cases same
      cases profiler : factory.profiles with
      | true =>
        exact old (hasFactory_of_register (Factory.decorates_of_profiles profiler _)
          (chained profiler) done)
      | false => exact ⟨id, member, own.trans profiler⟩
  · obtain ⟨n, member, -⟩ := old enlists.browses
    exact hasFactory_iff.2 ⟨n, member⟩
  · rw [numbers]
    exact enlists.low
  · intro other held
    rw [factory?_register done, if_pos rfl] at held
    rcases Option.or_eq_some_iff.1 held with before | ⟨-, same⟩
    · exact enlists.suits other before
    · exact congrArg Factory.role (Option.some.inj same).symm

theorem registerAll_cons (r : Registration) (rest : List Registration) (m : Manager) :
    (registerAll id factory (r :: rest)).outcome m =
      if ¬ r.ifPresent ∨ m.hasFactory r.kind then
        match m.register id factory r.kind with
        | .ok after => (registerAll id factory rest).outcome after
        | .error e => (.error e, m)
      else (registerAll id factory rest).outcome m := by
  have asks : Action.query (fun m : Manager => .ok (m.hasFactory r.kind)) m =
      .ok (m.hasFactory r.kind) m := rfl
  refine (Action.outcome_bind_of_ok asks).trans ?_
  by_cases asked : ¬ r.ifPresent = true ∨ m.hasFactory r.kind = true
  · rw [if_pos asked, if_pos asked]
    cases made : m.register id factory r.kind with
    | ok after =>
      have done : Action.update (fun m : Manager => do return ((), ← m.register id factory r.kind)) m =
          .ok () after := by simp [Action.update, made, bind, Except.bind, pure, Except.pure]
      exact Action.outcome_bind_of_ok done
    | error e =>
      have failed : Action.update (fun m : Manager => do return ((), ← m.register id factory r.kind)) m =
          .error e m := by simp [Action.update, made, bind, Except.bind]
      exact Action.outcome_of_error (Action.bind_of_error failed)
  · rw [if_neg asked, if_neg asked]

/-- All of a plugin's registrations keep a manager in order. -/
theorem Enlists.registerAll {registrations : List Registration} (enlists : Enlists id factory m)
    (chained : factory.profiles = true → ∀ r ∈ registrations, r.kind ≠ .driver) :
    Enlists id factory ((Manager.registerAll id factory registrations).outcome m).2 := by
  induction registrations generalizing m with
  | nil => exact enlists
  | cons r rest ih =>
    have here profiler := (List.forall_mem_cons.1 (chained profiler)).1
    have later profiler := (List.forall_mem_cons.1 (chained profiler)).2
    rw [registerAll_cons]
    split
    · cases made : m.register id factory r.kind with
      | error e => exact enlists
      | ok after => exact ih (enlists.register here made) later
    · exact ih enlists later

/-! ### What profilers do not change -/

/-- With a factory that is no profiler, no number becomes that of a profiler. -/
theorem profiles_of_register (other : factory.profiles = false)
    (done : m.register id factory kind = .ok after) : after.profiles = m.profiles := by
  funext n
  cases held : m.factory? n with
  | some found => exact profiles_register done (by rw [held]; rfl)
  | none =>
    unfold profiles
    rw [factory?_register done, held]
    by_cases here : n = id <;> simp [here, other]

theorem Orderly.hasFactory_unprofiled (orderly : Orderly m) (kind : ContractKind) :
    (m.unprofiled ρ).hasFactory kind = m.hasFactory kind := by
  rw [Bool.eq_iff_iff]
  constructor
  · intro there
    obtain ⟨id, member⟩ := hasFactory_iff.1 there
    obtain ⟨⟨k, n⟩, before, same⟩ := List.mem_map.1 member
    cases same
    exact hasFactory_iff.2 ⟨n, (List.mem_filter.1 before).1⟩
  · intro there
    obtain ⟨id, member, measures⟩ := orderly.grounded kind there
    refine hasFactory_iff.2 ⟨ρ id, List.mem_map.2 ⟨(kind, id), ?_, rfl⟩⟩
    exact List.mem_filter.2 ⟨member, by simp [measures]⟩

/-- Where the number of a factory that is no profiler is free, or its own, the factory is registered as
it is without profilers. -/
theorem register_unprofiled (enlists : Enlists id factory m) (other : factory.profiles = false) :
    (m.unprofiled ρ).register (ρ id) factory kind =
      (m.register id factory kind).map (unprofiled ρ) := by
  have own : m.profiles id = false := by
    unfold profiles
    cases held : m.factory? id with
    | none => rfl
    | some found => exact (enlists.suits.profiles held).trans other
  have looked : (m.unprofiled ρ).factory? (ρ id) = m.factory? id := by
    rw [factory?_unprofiled, own]
    rfl
  unfold register
  rw [enlists.hasFactory_unprofiled, looked]
  by_cases refused : kind ≠ .driver ∧ factory.decorates kind = true ∧ ¬ m.hasFactory kind = true
  · rw [if_pos refused, if_pos refused]
    rfl
  · rw [if_neg refused, if_neg refused]
    have same := profiles_of_register other (if_neg refused : m.register id factory kind = _)
    unfold Except.map unprofiled
    dsimp only
    rw [same]
    cases (m.factory? id).isSome <;> simp [own]

theorem registerAll_unprofiled (registrations : List Registration)
    (enlists : Enlists id factory m) (other : factory.profiles = false) :
    (registerAll (ρ id) factory registrations).outcome (m.unprofiled ρ) =
      (((registerAll id factory registrations).outcome m).1,
        ((registerAll id factory registrations).outcome m).2.unprofiled ρ) := by
  induction registrations generalizing m with
  | nil => rfl
  | cons r rest ih =>
    rw [registerAll_cons, registerAll_cons, enlists.hasFactory_unprofiled,
      register_unprofiled enlists other]
    split
    · cases made : m.register id factory r.kind with
      | error e => rfl
      | ok after => exact ih (enlists.register (fun profiler => by simp [other] at profiler) made)
    · exact ih enlists

/-- Registering a profiler is nothing to what there is without profilers. -/
theorem unprofiled_register (enlists : Enlists id factory m) (profiler : factory.profiles = true)
    (done : m.register id factory kind = .ok after) (ρ : Renumbering) :
    after.unprofiled ρ = m.unprofiled ρ := by
  have own : after.profiles id = true := (enlists.profiles_own done).trans profiler
  have factories : m.factories.filter (fun pair => !after.profiles pair.1) =
      m.factories.filter fun pair => !m.profiles pair.1 :=
    List.filter_congr fun pair member => by rw [profiles_register done (isSome_factory? member)]
  have registrations : m.registrations.filter (fun pair => !after.profiles pair.2) =
      m.registrations.filter fun pair => !m.profiles pair.2 :=
    List.filter_congr fun pair member => by
      rw [profiles_register done (enlists.present pair member)]
  have same := register_eq_ok done
  unfold unprofiled
  generalize after.profiles = measures at own factories registrations ⊢
  subst same
  cases (m.factory? id).isSome <;> simp [own, factories, registrations]

/-- A profiler registers itself wherever there is something to wrap. -/
theorem registerAll_profiler {registrations : List Registration} (enlists : Enlists id factory m)
    (profiler : factory.profiles = true)
    (wraps : ∀ r ∈ registrations, r.kind ≠ .driver ∧
      (r.ifPresent = false → m.hasFactory r.kind = true)) :
    ∃ after, (registerAll id factory registrations).outcome m = (.ok (), after) ∧
      Enlists id factory after ∧ ∀ ρ, after.unprofiled ρ = m.unprofiled ρ := by
  induction registrations generalizing m with
  | nil => exact ⟨m, rfl, enlists, fun _ => rfl⟩
  | cons r rest ih =>
    obtain ⟨⟨chained, present⟩, later⟩ := List.forall_mem_cons.1 wraps
    rw [registerAll_cons]
    by_cases asked : ¬ r.ifPresent = true ∨ m.hasFactory r.kind = true
    · have there : m.hasFactory r.kind = true :=
        asked.elim (fun always => present (by simpa using always)) fun there => there
      rw [if_pos asked]
      obtain ⟨after, made⟩ : ∃ after, m.register id factory r.kind = .ok after := by
        unfold register
        rw [if_neg (by simp [there])]
        exact ⟨_, rfl⟩
      rw [made]
      have more : ∀ k, m.hasFactory k = true → after.hasFactory k = true := by
        intro k before
        obtain ⟨n, member⟩ := hasFactory_iff.1 before
        exact hasFactory_iff.2 ⟨n, (mem_registrations_register made).2 (.inl member)⟩
      obtain ⟨last, run, enlisted, same⟩ := ih (enlists.register (fun _ => chained) made)
        fun r member => ⟨(later r member).1, fun always => more _ ((later r member).2 always)⟩
      exact ⟨last, run, enlisted, fun ρ =>
        (same ρ).trans (unprofiled_register enlists profiler made ρ)⟩
    · rw [if_neg asked]
      exact ih enlists later

/-! ### Loading a plugin -/

/-- The manager that has given out its next number. -/
def numbering (m : Manager) : Manager :=
  { m with nextFactory := m.nextFactory + 1 }

/-- The manager with one more plugin loaded. -/
def noting (id : String) (m : Manager) : Manager :=
  { m with loaded := m.loaded ++ [id] }

theorem unprofiled_noting_profiler (m : Manager) :
    (m.noting "profiler").unprofiled ρ = m.unprofiled ρ := by
  have left : (m.loaded ++ ["profiler"]).filter (· ≠ "profiler") =
      m.loaded.filter (· ≠ "profiler") := by simp
  exact congrArg (fun loaded => { m.unprofiled ρ with loaded }) left

theorem unprofiled_noting (m : Manager) {plugin : String} (other : plugin ≠ "profiler") :
    (m.noting plugin).unprofiled ρ = (m.unprofiled ρ).noting plugin := by
  have left : (m.loaded ++ [plugin]).filter (· ≠ "profiler") =
      m.loaded.filter (· ≠ "profiler") ++ [plugin] := by simp [other]
  exact congrArg (fun loaded => { m.unprofiled ρ with loaded }) left

theorem load_of_registers {plugin : String} {registrations : List Registration}
    (found : m.plugins.get? plugin = some (.registers factory registrations)) :
    (load plugin).outcome m =
      match (registerAll m.nextFactory factory registrations).outcome m.numbering with
      | (.ok (), after) => (.ok (), after.noting plugin)
      | (.error e, after) => (.error (e.withContext ("loading plugin " ++ plugin)), after) := by
  have asks : Action.query (fun m : Manager => .ok (m.plugins.get? plugin)) m =
      .ok (some (.registers factory registrations)) m := by
    simp [Action.query, found]
  have registers : (do
      let number ← Action.query fun m : Manager => .ok m.nextFactory
      modify fun m => { m with nextFactory := number + 1 }
      registerAll number factory registrations : Action Manager Unit).outcome m =
        (registerAll m.nextFactory factory registrations).outcome m.numbering := rfl
  refine (Action.outcome_bind_of_ok asks).trans ?_
  refine (Action.outcome_bind_of_ok (Action.attempt_apply _ m)).trans ?_
  dsimp only
  rw [registers]
  rcases (registerAll m.nextFactory factory registrations).outcome m.numbering with ⟨e | _, after⟩ <;>
    rfl

theorem load_of_none {plugin : String} (missing : m.plugins.get? plugin = none) :
    (load plugin).outcome m = (.error (.unknownPlugin plugin), m) := by
  have asks : Action.query (fun m : Manager => .ok (m.plugins.get? plugin)) m = .ok none m := by
    simp [Action.query, missing]
  exact (Action.outcome_bind_of_ok asks).trans rfl

theorem get?_bundled (plugin : String) :
    bundled.get? plugin =
      if plugin = "librarian" then some (.registers .librarian [{ kind := .catalog }])
      else if plugin = "profiler" then some (.registers (.profiler 1000) [{ kind := .catalog },
        { kind := .pools, ifPresent := true }, { kind := .io, ifPresent := true }])
      else if plugin = "filesystem" then
        some (.registers (.disk {}) [{ kind := .driver }, { kind := .io }])
      else if plugin = "memory" then some (.registers (.memory {}) [{ kind := .accounts },
        { kind := .inode }, { kind := .pools }])
      else none := by
  unfold bundled Table.ofList
  simp only [List.foldl_cons, List.foldl_nil, Table.get?_insert]
  rfl

/-- The bundled plugins register factories, and only one of them brings a profiler. -/
theorem registers_of_bundled {name : String} {plugin : Plugin}
    (found : bundled.get? name = some plugin) (other : name ≠ "profiler") :
    ∃ factory registrations, plugin = .registers factory registrations ∧
      factory.profiles = false := by
  rw [get?_bundled, if_neg other] at found
  split at found
  · cases found
    exact ⟨_, _, rfl, rfl⟩
  split at found
  · cases found
    exact ⟨_, _, rfl, rfl⟩
  split at found
  · cases found
    exact ⟨_, _, rfl, rfl⟩
  · cases found

theorem Orderly.enlists (orderly : Orderly m) (factory : Factory) :
    Enlists m.nextFactory factory m.numbering := by
  have free : m.factory? m.nextFactory = none := by
    unfold factory?
    rw [Option.map_eq_none_iff, List.find?_eq_none]
    intro pair member
    simpa using Nat.ne_of_lt (orderly.numbered pair member)
  exact ⟨⟨orderly.plugins, fun pair member => Nat.lt_succ_of_lt (orderly.numbered pair member),
    orderly.single, orderly.present, orderly.grounded, orderly.browses⟩, Nat.lt_succ_self _,
    fun other held => by cases free.symm.trans held⟩

theorem Orderly.noting (orderly : Orderly m) (plugin : String) : Orderly (m.noting plugin) :=
  ⟨orderly.plugins, orderly.numbered, orderly.single, orderly.present, orderly.grounded,
    orderly.browses⟩

/-- A profiler can be loaded at any time, and changes nothing but for itself. -/
theorem Orderly.load_profiler (orderly : Orderly m) :
    ∃ after, (load "profiler").outcome m = (.ok (), after) ∧ Orderly after ∧
      ∀ ρ, after.unprofiled ρ = m.unprofiled ρ := by
  have found : m.plugins.get? "profiler" = some (.registers (.profiler 1000) [{ kind := .catalog },
      { kind := .pools, ifPresent := true }, { kind := .io, ifPresent := true }]) := by
    rw [orderly.plugins, get?_bundled]
    simp
  have wraps : ∀ r ∈ ([{ kind := .catalog }, { kind := .pools, ifPresent := true },
      { kind := .io, ifPresent := true }] : List Registration),
      r.kind ≠ .driver ∧ (r.ifPresent = false → m.numbering.hasFactory r.kind = true) := by
    have browses : m.numbering.hasFactory .catalog = true := orderly.browses
    simp [browses]
  obtain ⟨after, run, enlists, same⟩ :=
    registerAll_profiler (orderly.enlists (.profiler 1000)) rfl wraps
  refine ⟨after.noting "profiler", ?_, enlists.toOrderly.noting _, fun ρ => ?_⟩
  · rw [load_of_registers found, run]
  · exact (unprofiled_noting_profiler after).trans (same ρ)

/-! ### Managers that are alike -/

/-- Without profilers the one manager is the other, but for the numbers of its factories. -/
structure Matches (ρ : Renumbering) (m n : Manager) : Prop where
  first : Orderly m
  second : Orderly n
  same : m.unprofiled ρ = n.unprofiled (Equiv.refl FactoryId)

theorem Orderly.unprofiled_congr (orderly : Orderly m) {σ : Renumbering}
    (agree : ∀ id, (m.factory? id).isSome = true → m.profiles id = false → σ id = ρ id) :
    m.unprofiled σ = m.unprofiled ρ := by
  have factories : (m.factories.filter fun pair => !m.profiles pair.1).map
        (fun pair => (σ pair.1, pair.2)) =
      (m.factories.filter fun pair => !m.profiles pair.1).map fun pair => (ρ pair.1, pair.2) := by
    refine List.map_congr_left fun pair member => ?_
    obtain ⟨member, measures⟩ := List.mem_filter.1 member
    rw [agree pair.1 (isSome_factory? member) (by simpa using measures)]
  have registrations : (m.registrations.filter fun pair => !m.profiles pair.2).map
        (fun pair => (pair.1, σ pair.2)) =
      (m.registrations.filter fun pair => !m.profiles pair.2).map fun pair => (pair.1, ρ pair.2) := by
    refine List.map_congr_left fun pair member => ?_
    obtain ⟨member, measures⟩ := List.mem_filter.1 member
    rw [agree pair.2 (orderly.present pair member) (by simpa using measures)]
  unfold unprofiled
  rw [factories, registrations]

theorem Orderly.lt_of_held (orderly : Orderly m) (held : (m.factory? id).isSome = true) :
    id < m.nextFactory := by
  unfold factory? at held
  rw [Option.isSome_map, List.find?_isSome] at held
  obtain ⟨pair, member, same⟩ := held
  obtain rfl : pair.1 = id := by simpa using same
  exact orderly.numbered pair member

/-- There are numbers that agree on all factories so far and match the next ones. -/
theorem Matches.next {n : Manager} (alike : Matches ρ m n) :
    ∃ σ : Renumbering, Matches σ m n ∧ σ m.nextFactory = n.nextFactory := by
  refine ⟨ρ.trans (Equiv.swap (ρ m.nextFactory) n.nextFactory), ⟨alike.first, alike.second, ?_⟩,
    Equiv.swap_apply_left _ _⟩
  refine (alike.first.unprofiled_congr fun id held measures => ?_).trans alike.same
  refine Equiv.swap_apply_of_ne_of_ne (fun same => ?_) fun same => ?_
  · exact Nat.ne_of_lt (alike.first.lt_of_held held) (ρ.injective same)
  · -- The factory goes by its new number in the other manager, whose next number is free.
    have found : (m.unprofiled ρ).factory? (ρ id) = m.factory? id := by
      rw [factory?_unprofiled, measures]
      rfl
    have other : (n.unprofiled (Equiv.refl FactoryId)).factory? (ρ id) =
        if n.profiles (ρ id) then none else n.factory? (ρ id) := factory?_unprofiled
    rw [← alike.same] at other
    have there : (n.factory? (ρ id)).isSome = true := by
      cases measures : n.profiles (ρ id) with
      | true =>
        rw [measures, if_pos rfl] at other
        rw [← found, other] at held
        cases held
      | false =>
        rw [measures] at other
        rw [← found] at held
        exact (congrArg Option.isSome other).symm.trans held
    exact Nat.ne_of_lt (alike.second.lt_of_held there) same

/-- Any other plugin than a profiler does the same to both. -/
theorem Matches.load {n : Manager} (alike : Matches ρ m n) {plugin : String}
    (other : plugin ≠ "profiler") :
    ((load plugin).outcome m).1 = ((load plugin).outcome n).1 ∧
      ∃ σ, Matches σ ((load plugin).outcome m).2 ((load plugin).outcome n).2 := by
  obtain ⟨σ, alike, next⟩ := alike.next
  cases found : bundled.get? plugin with
  | none =>
    rw [load_of_none (by rw [alike.first.plugins, found]),
      load_of_none (by rw [alike.second.plugins, found])]
    exact ⟨rfl, σ, alike⟩
  | some loads =>
    obtain ⟨factory, registrations, rfl, none_⟩ := registers_of_bundled found other
    have enlists := alike.first.enlists factory
    have enlistsAlso := alike.second.enlists factory
    rw [load_of_registers (by rw [alike.first.plugins, found]),
      load_of_registers (by rw [alike.second.plugins, found])]
    have first := registerAll_unprofiled (ρ := σ) registrations enlists none_
    have second := registerAll_unprofiled (ρ := Equiv.refl FactoryId) registrations enlistsAlso none_
    have spared : factory.profiles = true → ∀ r ∈ registrations, r.kind ≠ .driver :=
      fun profiler => by simp [none_] at profiler
    have order := (enlists.registerAll spared).toOrderly
    have orderAlso := (enlistsAlso.registerAll spared).toOrderly
    have begins : m.numbering.unprofiled σ = n.numbering.unprofiled (Equiv.refl FactoryId) :=
      alike.same
    rw [next, begins] at first
    have both := first.symm.trans second
    generalize (registerAll m.nextFactory factory registrations).outcome m.numbering = done
      at order both
    generalize (registerAll n.nextFactory factory registrations).outcome n.numbering = doneAlso
      at orderAlso both
    obtain ⟨result, after⟩ := done
    obtain ⟨resultAlso, afterAlso⟩ := doneAlso
    obtain ⟨rfl, left⟩ := Prod.mk.inj both
    cases result with
    | error e => exact ⟨rfl, σ, order, orderAlso, left⟩
    | ok =>
      refine ⟨rfl, σ, order.noting plugin, orderAlso.noting plugin, ?_⟩
      rw [unprofiled_noting _ other, unprofiled_noting _ other]
      exact congrArg (noting plugin) left

end Manager

end Stowage
