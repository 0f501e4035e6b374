import Stowage.Proofs.ProfilerLoads

/-! Setting up a manager with more profilers than another. Options that are not for profilers go past
them, and every other plugin is loaded alike; so whatever settings a manager is given, the answers are
the same with profilers loaded in between, and without its profilers it ends as the manager that was
given the settings alone. -/
namespace Stowage

/-- What a manager is told before there are stacks. -/
inductive Setting where
  | load (plugin : String)
  | option (key value : String)
  /-- An option for one plugin. -/
  | optionOf (plugin key value : String)

namespace Setting

def act : Setting → Action Manager Unit
  | .load plugin => Manager.load plugin
  | .option key value => Manager.configure key value
  | .optionOf plugin key value => Manager.configurePlugin plugin key value

/-- The setting is nothing that a profiler would take. -/
def Spares : Setting → Prop
  | .load _ => True
  | .option key _ => key ≠ "ProfilerSlowMs"
  | .optionOf plugin _ _ => plugin ≠ "profiler"

/-- The settings with what came of them, and the manager in the end. -/
def run : List Setting → Manager → List (Setting × Except Error Unit) × Manager
  | [], m => ([], m)
  | setting :: rest, m =>
    let (answer, after) := setting.act.outcome m
    let (answers, last) := run rest after
    ((setting, answer) :: answers, last)

end Setting

/-- A list with more of something put in anywhere. -/
inductive Padded {α : Type} (extra : α) : List α → List α → Prop where
  | nil : Padded extra [] []
  | same (a : α) {plain padded : List α} (rest : Padded extra plain padded) :
      Padded extra (a :: plain) (a :: padded)
  | extra {plain padded : List α} (rest : Padded extra plain padded) :
      Padded extra plain (extra :: padded)

namespace Manager

variable {ρ : Renumbering} {m n : Manager}

/-! ### Options -/

/-- An option does not make another kind of factory. -/
theorem role_configure {key value : String} {factory changed : Factory}
    (taken : factory.configure key value = .ok changed) : changed.role = factory.role := by
  cases factory with
  | builtInCatalog | librarian => cases taken
  | memory tables | disk options =>
    obtain ⟨_, -, same⟩ := Error.bind_eq_ok_iff.1 taken
    cases same
    rfl
  | profiler slowMs =>
    simp only [Factory.configure] at taken
    split at taken
    · split at taken
      · cases taken
        rfl
      · cases taken
    · cases taken
  | custom factory =>
    obtain ⟨_, -, same⟩ := Error.bind_eq_ok_iff.1 taken
    cases same
    rfl

/-- The number of a factory, and the part that it plays. -/
def flagged (pair : FactoryId × Factory) : FactoryId × Role :=
  (pair.1, pair.2.role)

section Offer

variable {isFor : Factory → Bool} {key value : String}

/-- An option is passed on from one factory to the next, unless one refuses its value. -/
theorem offer_cons (taken : Bool) (id : FactoryId) (factory : Factory)
    (rest : List (FactoryId × Factory)) :
    offer isFor key value taken ((id, factory) :: rest) =
      if isFor factory then
        match factory.configure key value with
        | .ok changed => ((offer isFor key value true rest).1,
            (id, changed) :: (offer isFor key value true rest).2)
        | .error e =>
          if e.kind = .unknownOption then ((offer isFor key value taken rest).1,
            (id, factory) :: (offer isFor key value taken rest).2)
          else (.error (e.withContext ("plugin " ++ factory.plugin)), (id, factory) :: rest)
      else ((offer isFor key value taken rest).1,
        (id, factory) :: (offer isFor key value taken rest).2) := rfl

theorem flagged_offer (taken : Bool) (factories : List (FactoryId × Factory)) :
    (offer isFor key value taken factories).2.map flagged = factories.map flagged := by
  induction factories generalizing taken with
  | nil => rfl
  | cons pair rest ih =>
    obtain ⟨id, factory⟩ := pair
    rw [offer_cons]
    split
    · cases made : factory.configure key value with
      | ok changed => simp [ih, flagged, role_configure made]
      | error e =>
        dsimp only
        split <;> simp [ih]
    · simp [ih]

/-- What no profiler takes goes past profilers. -/
theorem offer_unprofiled (keep : FactoryId → Bool)
    (spares : ∀ factory : Factory, factory.profiles = true → isFor factory = true →
      factory.configure key value = .error (.unknownOption key))
    {factories : List (FactoryId × Factory)}
    (flags : ∀ pair ∈ factories, keep pair.1 = !pair.2.profiles) (taken : Bool) :
    offer isFor key value taken
        ((factories.filter fun pair => keep pair.1).map fun pair => (ρ pair.1, pair.2)) =
      ((offer isFor key value taken factories).1,
        ((offer isFor key value taken factories).2.filter fun pair => keep pair.1).map
          fun pair => (ρ pair.1, pair.2)) := by
  induction factories generalizing taken with
  | nil => rfl
  | cons pair rest ih =>
    obtain ⟨id, factory⟩ := pair
    obtain ⟨flag, later⟩ := List.forall_mem_cons.1 flags
    dsimp only at flag
    rw [offer_cons]
    cases profiler : factory.profiles with
    | true =>
      rw [profiler] at flag
      have known : (Error.unknownOption key).kind = .unknownOption := rfl
      by_cases asked : isFor factory = true
      · simp [asked, spares factory profiler asked, known, flag, ih later]
      · simp [asked, flag, ih later]
    | false =>
      rw [profiler] at flag
      have kept : ((id, factory) :: rest).filter (fun pair => keep pair.1) =
          (id, factory) :: rest.filter fun pair => keep pair.1 := by simp [flag]
      rw [kept, List.map_cons, offer_cons]
      by_cases asked : isFor factory = true
      · rw [if_pos asked, if_pos asked]
        cases factory.configure key value with
        | ok changed => simp [flag, ih later]
        | error e =>
          dsimp only
          split <;> simp [flag, ih later]
      · simp [asked, flag, ih later]

end Offer

/-! ### Settings -/

theorem find_flagged (factories : List (FactoryId × Factory)) (id : FactoryId) :
    (factories.map flagged).find? (fun pair => pair.1 = id) =
      (factories.find? fun (k, _) => k = id).map flagged :=
  List.find?_map

theorem profiles_of_flagged (same : n.factories.map flagged = m.factories.map flagged) :
    n.profiles = m.profiles := by
  have read (m : Manager) (id : FactoryId) : m.profiles id =
      ((m.factories.map flagged).find? fun pair => pair.1 = id).any fun pair => pair.2 = .profiler := by
    rw [find_flagged]
    unfold profiles factory?
    cases m.factories.find? fun (k, _) => k = id with
    | none => rfl
    | some pair => exact pair.2.profiles_eq
  funext id
  rw [read, read, same]

theorem isSome_of_flagged (same : n.factories.map flagged = m.factories.map flagged)
    (id : FactoryId) : (n.factory? id).isSome = (m.factory? id).isSome := by
  have read (m : Manager) : (m.factory? id).isSome =
      ((m.factories.map flagged).find? fun pair => pair.1 = id).isSome := by
    rw [find_flagged, Option.isSome_map]
    exact Option.isSome_map
  rw [read, read, same]

/-- The manager with other options, and with other factories of the same kinds. -/
structure Retuned (m n : Manager) : Prop where
  flagged : n.factories.map flagged = m.factories.map flagged
  registrations : n.registrations = m.registrations
  nextFactory : n.nextFactory = m.nextFactory
  plugins : n.plugins = m.plugins

theorem Orderly.retuned (orderly : Orderly m) (retuned : Retuned m n) : Orderly n := by
  have measures := profiles_of_flagged retuned.flagged
  have listed {pair : FactoryId × Factory} (member : pair ∈ n.factories) :
      ∃ old ∈ m.factories, flagged old = flagged pair := by
    have there := List.mem_map_of_mem (f := flagged) member
    rw [retuned.flagged] at there
    simpa using there
  have has (kind : ContractKind) : n.hasFactory kind = m.hasFactory kind := by
    unfold hasFactory
    rw [retuned.registrations]
  refine ⟨retuned.plugins.trans orderly.plugins, fun pair member => ?_, fun pair member => ?_,
    fun pair member => ?_, fun kind there => ?_, (has _).trans orderly.browses⟩
  · obtain ⟨old, before, same⟩ := listed member
    rw [retuned.nextFactory, ← (Prod.mk.inj same).1]
    exact orderly.numbered old before
  · obtain ⟨old, before, same⟩ := listed member
    rw [measures, ← (Prod.mk.inj same).1, pair.2.profiles_eq, ← (Prod.mk.inj same).2, ← old.2.profiles_eq]
    exact orderly.single old before
  · rw [retuned.registrations] at member
    rw [isSome_of_flagged retuned.flagged]
    exact orderly.present pair member
  · rw [has] at there
    rw [retuned.registrations, measures]
    exact orderly.grounded kind there

theorem outcome_offerOption (isFor : Factory → Bool) (key value : String) (unknown : Error) :
    (offerOption isFor key value unknown).outcome m =
      match (offer isFor key value false m.factories).1 with
      | .error e => (.error e,
          { m with factories := (offer isFor key value false m.factories).2 })
      | .ok false => (.error unknown,
          { m with factories := (offer isFor key value false m.factories).2 })
      | .ok true => (.ok (), { m with
          factories := (offer isFor key value false m.factories).2
          options := m.options.insert key value }) := by
  simp only [offerOption, Action.outcome]
  rcases offer isFor key value false m.factories with ⟨e | _ | _, factories⟩ <;> rfl

theorem unprofiled_retuned {factories : List (FactoryId × Factory)}
    (flags : factories.map flagged = m.factories.map flagged) (options : Table String String) :
    ({ m with factories, options } : Manager).unprofiled ρ =
      { m.unprofiled ρ with
        factories := (factories.filter fun pair => !m.profiles pair.1).map fun pair =>
          (ρ pair.1, pair.2)
        options } := by
  have measures : ({ m with factories, options } : Manager).profiles = m.profiles :=
    profiles_of_flagged flags
  unfold unprofiled
  rw [measures]

/-- An option that profilers do not take is taken as it is without them. -/
theorem offerOption_unprofiled (orderly : Orderly m) {isFor : Factory → Bool} {key value : String}
    (spares : ∀ factory : Factory, factory.profiles = true → isFor factory = true →
      factory.configure key value = .error (.unknownOption key)) (unknown : Error) :
    (offerOption isFor key value unknown).outcome (m.unprofiled ρ) =
        (((offerOption isFor key value unknown).outcome m).1,
          ((offerOption isFor key value unknown).outcome m).2.unprofiled ρ) ∧
      Orderly ((offerOption isFor key value unknown).outcome m).2 := by
  have flags : (offer isFor key value false m.factories).2.map flagged = m.factories.map flagged :=
    flagged_offer false m.factories
  have offered : offer isFor key value false (m.unprofiled ρ).factories =
      ((offer isFor key value false m.factories).1,
        ((offer isFor key value false m.factories).2.filter fun pair => !m.profiles pair.1).map
          fun pair => (ρ pair.1, pair.2)) :=
    offer_unprofiled (fun id => !m.profiles id) spares
      (fun pair member => by rw [orderly.single pair member]) false
  rw [outcome_offerOption, outcome_offerOption, offered]
  have left := unprofiled_retuned (ρ := ρ) flags
  have order (options : Table String String) :
      Orderly { m with factories := (offer isFor key value false m.factories).2, options } :=
    orderly.retuned ⟨flags, rfl, rfl, rfl⟩
  rcases (offer isFor key value false m.factories).1 with e | _ | _
  · exact ⟨congrArg (Prod.mk _) (left m.options).symm, order m.options⟩
  · exact ⟨congrArg (Prod.mk _) (left m.options).symm, order m.options⟩
  · exact ⟨congrArg (Prod.mk _) (left (m.options.insert key value)).symm,
      order (m.options.insert key value)⟩

/-- No profiler takes an option that spares profilers. -/
theorem configure_profiler {key value : String} {factory : Factory}
    (profiler : factory.profiles = true) (other : key ≠ "ProfilerSlowMs") :
    factory.configure key value = .error (.unknownOption key) := by
  cases factory with
  | profiler slowMs => simp [Factory.configure, other]
  | _ => cases profiler

theorem plugin_of_profiles {factory : Factory} (profiler : factory.profiles = true) :
    factory.plugin = "profiler" := by
  cases factory with
  | profiler slowMs => rfl
  | _ => cases profiler

theorem configure_unprofiled (orderly : Orderly m) {key : String} (other : key ≠ "ProfilerSlowMs")
    (value : String) :
    (configure key value).outcome (m.unprofiled ρ) =
        (((configure key value).outcome m).1, ((configure key value).outcome m).2.unprofiled ρ) ∧
      Orderly ((configure key value).outcome m).2 := by
  unfold configure
  split
  · cases PlacementPolicy.parse value with
    | error e => exact ⟨rfl, orderly⟩
    | ok policy => exact ⟨rfl, orderly.retuned ⟨rfl, rfl, rfl, rfl⟩⟩
  · exact offerOption_unprofiled orderly (fun _ profiler _ => configure_profiler profiler other) _

theorem configurePlugin_unprofiled (orderly : Orderly m) {plugin : String}
    (other : plugin ≠ "profiler") (key value : String) :
    (configurePlugin plugin key value).outcome (m.unprofiled ρ) =
        (((configurePlugin plugin key value).outcome m).1,
          ((configurePlugin plugin key value).outcome m).2.unprofiled ρ) ∧
      Orderly ((configurePlugin plugin key value).outcome m).2 := by
  have asked : (m.unprofiled ρ).factories.any (fun (_, f) => f.plugin = plugin) =
      m.factories.any fun (_, f) => f.plugin = plugin := by
    rw [Bool.eq_iff_iff, List.any_eq_true, List.any_eq_true]
    constructor
    · rintro ⟨pair, member, same⟩
      obtain ⟨old, before, rfl⟩ := List.mem_map.1 member
      exact ⟨old, (List.mem_filter.1 before).1, same⟩
    · rintro ⟨pair, member, same⟩
      refine ⟨(ρ pair.1, pair.2), List.mem_map.2 ⟨pair, List.mem_filter.2 ⟨member, ?_⟩, rfl⟩, same⟩
      rw [orderly.single pair member]
      cases profiler : pair.2.profiles with
      | false => rfl
      | true =>
        obtain rfl : pair.2.plugin = plugin := by simpa using same
        exact absurd (plugin_of_profiles profiler) other
  have known (m : Manager) : Action.query
      (fun m : Manager => .ok (m.factories.any fun (_, f) => f.plugin = plugin)) m =
        .ok (m.factories.any fun (_, f) => f.plugin = plugin) m := rfl
  unfold configurePlugin
  rw [Action.outcome_bind_of_ok (known m), Action.outcome_bind_of_ok (known (m.unprofiled ρ)), asked]
  cases m.factories.any fun (_, f) => f.plugin = plugin with
  | false => exact ⟨rfl, orderly⟩
  | true =>
    refine offerOption_unprofiled orderly (fun factory profiler isFor => absurd ?_ other) _
    rw [plugin_of_profiles profiler] at isFor
    exact (by simpa using isFor : "profiler" = plugin).symm

/-- What is done to both as to what they are without profilers is done to them alike. -/
theorem Matches.of_unprofiled {α : Type} (alike : Matches ρ m n) (act : Action Manager α)
    (blind : ∀ {ρ : Renumbering} {m : Manager}, Orderly m →
      act.outcome (m.unprofiled ρ) = ((act.outcome m).1, (act.outcome m).2.unprofiled ρ) ∧
        Orderly (act.outcome m).2) :
    (act.outcome m).1 = (act.outcome n).1 ∧ Matches ρ (act.outcome m).2 (act.outcome n).2 := by
  obtain ⟨first, order⟩ := blind (ρ := ρ) alike.first
  obtain ⟨second, orderAlso⟩ := blind (ρ := Equiv.refl FactoryId) alike.second
  rw [alike.same, second] at first
  obtain ⟨answer, left⟩ := Prod.mk.inj first
  exact ⟨answer.symm, order, orderAlso, left.symm⟩

/-- A setting that spares profilers does the same to managers that are alike. -/
theorem Matches.act (alike : Matches ρ m n) {setting : Setting} (spares : setting.Spares)
    (other : setting ≠ .load "profiler") :
    (setting.act.outcome m).1 = (setting.act.outcome n).1 ∧
      ∃ σ, Matches σ (setting.act.outcome m).2 (setting.act.outcome n).2 := by
  cases setting with
  | load plugin => exact alike.load fun same => other (congrArg Setting.load same)
  | option key value =>
    obtain ⟨same, left⟩ := alike.of_unprofiled (configure key value) fun orderly =>
      configure_unprofiled orderly spares value
    exact ⟨same, ρ, left⟩
  | optionOf plugin key value =>
    obtain ⟨same, left⟩ := alike.of_unprofiled (configurePlugin plugin key value)
      fun orderly => configurePlugin_unprofiled orderly spares key value
    exact ⟨same, ρ, left⟩

/-! ### Runs of settings -/

theorem orderly_initial : Orderly initial where
  plugins := rfl
  numbered := by simp [initial]
  single := by simp [initial, profiles, factory?, Factory.profiles]
  present := by simp [initial, factory?]
  grounded kind there := by
    obtain ⟨id, member⟩ := hasFactory_iff.1 there
    obtain ⟨rfl, rfl⟩ : kind = .catalog ∧ id = 0 := by simpa [initial] using member
    exact ⟨0, member, rfl⟩
  browses := rfl

theorem run_cons (setting : Setting) (rest : List Setting) (m : Manager) :
    Setting.run (setting :: rest) m =
      ((setting, (setting.act.outcome m).1) :: (Setting.run rest (setting.act.outcome m).2).1,
        (Setting.run rest (setting.act.outcome m).2).2) := rfl

/-- Profilers can be loaded into both. -/
theorem Matches.load_profiler (alike : Matches ρ m n) :
    ((Manager.load "profiler").outcome m).1 = ((Manager.load "profiler").outcome n).1 ∧
      Matches ρ ((Manager.load "profiler").outcome m).2 ((Manager.load "profiler").outcome n).2 := by
  obtain ⟨after, loaded, order, same⟩ := alike.first.load_profiler
  obtain ⟨afterAlso, loadedAlso, orderAlso, sameAlso⟩ := alike.second.load_profiler
  rw [loaded, loadedAlso]
  exact ⟨rfl, order, orderAlso, (same ρ).trans (alike.same.trans (sameAlso _).symm)⟩

/-- With more profilers loaded on the way, the same comes of the settings, and the managers are alike
in the end as they were at the start. -/
theorem Matches.run {plain padded : List Setting} (alike : Matches ρ m n)
    (adds : Padded (.load "profiler") plain padded) (spares : ∀ setting ∈ plain, setting.Spares) :
    Padded (.load "profiler", .ok ()) (Setting.run plain n).1 (Setting.run padded m).1 ∧
      ∃ σ, Matches σ (Setting.run padded m).2 (Setting.run plain n).2 := by
  induction adds generalizing ρ m n with
  | nil => exact ⟨.nil, ρ, alike⟩
  | extra rest ih =>
    obtain ⟨after, loaded, order, same⟩ := alike.first.load_profiler
    have given : (Setting.load "profiler").act.outcome m = (.ok (), after) := loaded
    rw [run_cons, given]
    obtain ⟨answers, last⟩ := ih ⟨order, alike.second, (same ρ).trans alike.same⟩ spares
    exact ⟨.extra answers, last⟩
  | same setting rest ih =>
    obtain ⟨spared, later⟩ := List.forall_mem_cons.1 spares
    obtain ⟨answer, σ, next⟩ : (setting.act.outcome m).1 = (setting.act.outcome n).1 ∧
        ∃ σ, Matches σ (setting.act.outcome m).2 (setting.act.outcome n).2 := by
      by_cases profiler : setting = .load "profiler"
      · subst profiler
        obtain ⟨answer, next⟩ := alike.load_profiler
        exact ⟨answer, ρ, next⟩
      · exact alike.act spared profiler
    obtain ⟨answers, last⟩ := ih next later
    rw [run_cons, run_cons, answer]
    exact ⟨.same _ answers, last⟩

end Manager

end Stowage
