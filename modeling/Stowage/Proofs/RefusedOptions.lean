import Mathlib.Data.List.Forall2
import Stowage.Proofs.DiskFactories
import Stowage.Proofs.Rounds

/-! Options that are refused. A bundled factory that knows an option judges its value by the value alone,
so that no factory refuses what another one took; only a filesystem has to find its pool in the tables
of the factory. Where several memory factories are loaded, an earlier one may therefore keep a
filesystem that a later one refuses, and then the manager does not note the value. What it does note is
the last value that a round took to its end. -/
namespace Stowage

/-! ### Bundled factories -/

namespace Factory

/-- The factory comes with the stack. -/
def IsBundled : Factory → Prop
  | .custom _ => False
  | _ => True

/-- The options that a bundled factory knows. -/
def keys : Factory → List String
  | .memory _ => ["MemoryUser", "MemoryGroup", "MemoryPool", "MemoryFilesystem"]
  | .disk _ => ["TokenPassword", "TokenId", "TokenLife"]
  | .profiler _ => ["ProfilerSlowMs"]
  | _ => []

variable {key value : String} {factory : Factory}

theorem configure_of_not_mem_keys (bundled : factory.IsBundled) (foreign : key ∉ factory.keys) :
    factory.configure key value = .error (.unknownOption key) := by
  cases factory with
  | custom factory => cases bundled
  | builtInCatalog | librarian => rfl
  | memory tables =>
    simp only [keys, List.mem_cons, List.not_mem_nil, or_false, not_or] at foreign
    simp only [configure, MemoryTables.configure, foreign, if_false]
    rfl
  | disk options =>
    simp only [keys, List.mem_cons, List.not_mem_nil, or_false, not_or] at foreign
    simp only [configure, TokenOptions.configure, foreign, if_false]
    rfl
  | profiler slowMs =>
    simp only [keys, List.mem_singleton] at foreign
    simp [configure, foreign]

end Factory

variable {key value : String}

theorem Error.isOk_bind_pure {α β : Type} (f : α → β) (x : Except Error α) :
    (x >>= fun a => pure (f a)).isOk = x.isOk := by
  cases x <;> rfl

/-- Users, groups and pools are taken by all tables or by none. -/
theorem MemoryTables.isOk_configure (apart : key ≠ "MemoryFilesystem") (t u : MemoryTables) :
    (t.configure key value).isOk = (u.configure key value).isOk := by
  unfold configure
  split
  · cases Account.parse value <;> rfl
  split
  · cases Group.parse value <;> rfl
  split
  · cases Pool.parse value <;> rfl
  · rfl

theorem TokenOptions.isOk_configure (t u : TokenOptions) :
    (t.configure key value).isOk = (u.configure key value).isOk := by
  unfold configure
  split
  · split <;> rfl
  split
  · cases TokenBinding.parse value <;> rfl
  split
  · cases Text.readU64? (Text.trim value) <;> rfl
  · rfl

namespace Factory

/-- No two plugins have an option in common. -/
theorem plugin_of_mem_keys {f g : Factory} (known : key ∈ f.keys) (also : key ∈ g.keys) :
    f.plugin = g.plugin := by
  cases f <;> cases g <;> simp only [keys, plugin] at known also ⊢ <;> grind

/-- Factories that know the same option judge its value alike, filesystems apart. -/
theorem isOk_configure {f g : Factory} (apart : key ≠ "MemoryFilesystem") (known : key ∈ f.keys)
    (also : key ∈ g.keys) (value : String) :
    (f.configure key value).isOk = (g.configure key value).isOk := by
  have alike := plugin_of_mem_keys known also
  cases f with
  | builtInCatalog | librarian | custom => cases known
  | memory t =>
    cases g with
    | memory u =>
      exact (Error.isOk_bind_pure memory _).trans
        ((MemoryTables.isOk_configure apart t u).trans (Error.isOk_bind_pure memory _).symm)
    | builtInCatalog | librarian | custom => cases also
    | disk | profiler => simp [plugin] at alike
  | disk t =>
    cases g with
    | disk u =>
      exact (Error.isOk_bind_pure disk _).trans
        ((TokenOptions.isOk_configure t u).trans (Error.isOk_bind_pure disk _).symm)
    | builtInCatalog | librarian | custom => cases also
    | memory | profiler => simp [plugin] at alike
  | profiler slow =>
    cases g with
    | profiler => rfl
    | builtInCatalog | librarian | custom => cases also
    | memory | disk => simp [plugin] at alike

/-- What one bundled factory takes, no other one refuses, filesystems apart. -/
theorem not_refuses_of_taken {f g changed : Factory} (bundled : f.IsBundled) (also : g.IsBundled)
    (apart : key ≠ "MemoryFilesystem") (taken : f.configure key value = .ok changed) :
    ¬ g.Refuses key value := by
  rintro ⟨e, refused, known⟩
  have knows : key ∈ f.keys := by
    by_contra foreign
    cases (configure_of_not_mem_keys bundled foreign).symm.trans taken
  have knowsAlso : key ∈ g.keys := by
    by_contra foreign
    cases (configure_of_not_mem_keys also foreign).symm.trans refused
    exact known rfl
  have same := isOk_configure apart knows knowsAlso value
  rw [taken, refused] at same
  cases same

/-- Only tables take filesystems. -/
theorem memory_of_takes_filesystem {factory changed : Factory} (bundled : factory.IsBundled)
    (takes : factory.configure "MemoryFilesystem" value = .ok changed) :
    ∃ tables after : MemoryTables, factory = .memory tables ∧ changed = .memory after ∧
      tables.configure "MemoryFilesystem" value = .ok after := by
  cases factory with
  | memory tables =>
    obtain ⟨after, taken, same⟩ := Error.bind_eq_ok_iff.1 takes
    cases same
    exact ⟨tables, after, rfl, rfl, taken⟩
  | custom => cases bundled
  | builtInCatalog | librarian | disk | profiler =>
    cases (configure_of_not_mem_keys bundled (by simp [keys])).symm.trans takes

/-- Only tables refuse filesystems. -/
theorem memory_of_refuses_filesystem {factory : Factory} (bundled : factory.IsBundled)
    (refuses : factory.Refuses "MemoryFilesystem" value) : factory.plugin = "memory" := by
  obtain ⟨e, refused, known⟩ := refuses
  cases factory with
  | memory tables => rfl
  | custom => cases bundled
  | builtInCatalog | librarian | disk | profiler =>
    cases (configure_of_not_mem_keys bundled (by simp [keys])).symm.trans refused
    exact absurd rfl known

end Factory

namespace Manager

variable {m n : Manager} {isFor : Factory → Bool} {factories : List (FactoryId × Factory)}
  {course : Course}

/-! ### One option -/

/-- The same factory, if need be with other pools in its tables. -/
def SavePools (old new : FactoryId × Factory) : Prop :=
  new = old ∨ ∃ tables pools, old.2 = .memory tables ∧ new = (old.1, .memory { tables with pools })

theorem savePools_refl (factories : List (FactoryId × Factory)) :
    List.Forall₂ SavePools factories factories :=
  List.forall₂_same.2 fun _ _ => .inl rfl

/-- A filesystem changes pools and nothing else. -/
theorem Round.savePools (round : Round isFor "MemoryFilesystem" value factories course)
    (bundled : ∀ pair ∈ factories, pair.2.IsBundled) :
    List.Forall₂ SavePools factories course.left := by
  induction round with
  | ended => exact .nil
  | passed other round ih | unknown own declines kind round ih =>
    exact .cons (.inl rfl) (ih (List.forall_mem_cons.1 bundled).2)
  | refused => exact savePools_refl _
  | taken own takes round ih =>
    obtain ⟨here, later⟩ := List.forall_mem_cons.1 bundled
    obtain ⟨tables, after, rfl, rfl, taken⟩ := Factory.memory_of_takes_filesystem here takes
    obtain ⟨⟨pool, fs⟩, -, added⟩ := Error.bind_eq_ok_iff.1 taken
    obtain ⟨pools, -, same⟩ := Error.bind_eq_ok_iff.1 added
    cases same
    exact .cons (.inr ⟨tables, pools, rfl, rfl⟩) (ih later)

/-- Some memory factory takes the filesystem and is another one then, and those before it do not refuse
it. -/
def TakesFilesystem (m : Manager) (value : String) : Prop :=
  ∃ front id tables back after, m.factories = front ++ (id, .memory tables) :: back ∧
    (∀ pair ∈ front, ¬ pair.2.Refuses "MemoryFilesystem" value) ∧
    tables.configure "MemoryFilesystem" value = .ok after ∧ after ≠ tables

/-- What a filesystem that is for the memory factories alters. -/
theorem alters_iff_takesFilesystem (bundled : ∀ pair ∈ m.factories, pair.2.IsBundled)
    (reaches : ∀ factory : Factory, factory.plugin = "memory" → isFor factory = true) :
    Alters isFor "MemoryFilesystem" value m.factories ↔ m.TakesFilesystem value := by
  constructor
  · rintro ⟨front, id, factory, back, changed, all, spared, own, takes, differs⟩
    rw [all] at bundled
    obtain ⟨tables, after, rfl, rfl, taken⟩ :=
      Factory.memory_of_takes_filesystem (bundled (id, factory) (by simp)) takes
    refine ⟨front, id, tables, back, after, all, fun pair member refuses => ?_, taken,
      fun same => differs (congrArg Factory.memory same)⟩
    have tables := Factory.memory_of_refuses_filesystem (bundled pair (by simp [member])) refuses
    exact spared pair member (reaches _ tables) refuses
  · rintro ⟨front, id, tables, back, after, all, spared, taken, differs⟩
    refine ⟨front, id, .memory tables, back, .memory after, all, fun pair member _ => spared pair member,
      reaches _ rfl, ?_, fun same => differs (Factory.memory.inj same)⟩
    exact Error.bind_eq_ok_iff.2 ⟨after, taken, rfl⟩

/-- Options that only other plugins are asked to take alter nothing when they are filesystems. -/
theorem not_alters_of_spared (bundled : ∀ pair ∈ m.factories, pair.2.IsBundled)
    (spares : ∀ factory : Factory, factory.plugin = "memory" → isFor factory = false) :
    ¬ Alters isFor "MemoryFilesystem" value m.factories := by
  rintro ⟨front, id, factory, back, changed, all, -, own, takes, -⟩
  rw [all] at bundled
  obtain ⟨tables, after, rfl, rfl, -⟩ :=
    Factory.memory_of_takes_filesystem (bundled (id, factory) (by simp)) takes
  exact Bool.false_ne_true ((spares _ rfl).symm.trans own)

/-- A round of another option that fails was taken by nobody. -/
theorem Round.untaken (round : Round isFor key value factories course)
    (bundled : ∀ pair ∈ factories, pair.2.IsBundled) (apart : key ≠ "MemoryFilesystem")
    (failed : course.refusal = none → course.takers = []) : course.takers = [] := by
  by_contra taken
  obtain ⟨pair, member, changed, takes⟩ := round.exists_taker taken
  refine taken (failed (round.refusal_of_unrefused fun other also => ?_))
  exact Factory.not_refuses_of_taken (bundled pair member) (bundled other also) apart takes

/-- A failed option leaves everything but the factories as it was, and these but for pools; the factories
are others exactly if one of them took a filesystem that was for it. -/
structure Spoils (m n : Manager) (key : String) (spoilt : Prop) : Prop where
  rest : n = { m with factories := n.factories }
  factories : List.Forall₂ SavePools m.factories n.factories
  changed : n ≠ m ↔ key = "MemoryFilesystem" ∧ spoilt

theorem spoils_of_round {unknown e : Error} {spoilt : Prop}
    (round : Round isFor key value m.factories course)
    (bundled : ∀ pair ∈ m.factories, pair.2.IsBundled)
    (altered : Alters isFor "MemoryFilesystem" value m.factories ↔ spoilt)
    (failed : m.conclude key value unknown course = (.error e, n)) : Spoils m n key spoilt := by
  obtain ⟨rfl, untaken⟩ := conclude_eq_error failed
  have same : ({ m with factories := course.left } : Manager) = m ↔ course.left = m.factories :=
    ⟨fun same => congrArg factories same, fun same => by rw [same]⟩
  refine ⟨rfl, ?_, ?_⟩
  · by_cases files : key = "MemoryFilesystem"
    · subst files
      exact round.savePools bundled
    · rw [round.left_of_untaken (round.untaken bundled files untaken)]
      exact savePools_refl _
  · rw [ne_eq, same]
    by_cases files : key = "MemoryFilesystem"
    · subst files
      rw [← ne_eq, round.left_ne_iff, altered]
      simp
    · simp [files, round.left_of_untaken (round.untaken bundled files untaken)]

theorem spoils_same {spoilt : Prop} (spared : ¬ (key = "MemoryFilesystem" ∧ spoilt)) :
    Spoils m m key spoilt :=
  ⟨rfl, savePools_refl _, by simpa using fun files spoilt => spared ⟨files, spoilt⟩⟩

/-- A plugin is addressed if one of its factories is there. -/
theorem outcome_configurePlugin (plugin key value : String) (m : Manager) :
    (configurePlugin plugin key value).outcome m =
      if m.factories.any (fun (_, f) => f.plugin = plugin) then
        (offerOption (fun f => f.plugin = plugin) key value
          ((Error.unknownOption key).withContext ("plugin " ++ plugin))).outcome m
      else (.error (.unknownPlugin plugin), m) := by
  have known : Action.query
      (fun m : Manager => .ok (m.factories.any fun (_, f) => f.plugin = plugin)) m =
        .ok (m.factories.any fun (_, f) => f.plugin = plugin) m := rfl
  unfold configurePlugin
  rw [Action.outcome_bind_of_ok known]
  cases m.factories.any fun (_, f) => f.plugin = plugin <;> rfl

/-- The manager's own option. -/
theorem outcome_configure_placement (value : String) (m : Manager) :
    (configure writePlacement value).outcome m =
      match PlacementPolicy.parse value with
      | .ok policy => (.ok (), { m with
          placement := { policy }, options := m.options.insert writePlacement value })
      | .error e => (.error e, m) := by
  cases parsed : PlacementPolicy.parse value <;>
    simp [configure, Action.update, Action.outcome, parsed, bind, Except.bind, pure, Except.pure]

/-- Any other option goes to all factories. -/
theorem outcome_configure (apart : key ≠ writePlacement) (value : String) (m : Manager) :
    (configure key value).outcome m =
      (offerOption (fun _ => true) key value (.unknownOption key)).outcome m := by
  unfold configure
  rw [if_neg apart]

theorem spoils_of_configure {e : Error} (bundled : ∀ pair ∈ m.factories, pair.2.IsBundled)
    (failed : (configure key value).outcome m = (.error e, n)) :
    Spoils m n key (m.TakesFilesystem value) := by
  by_cases own : key = writePlacement
  · subst own
    rw [outcome_configure_placement] at failed
    split at failed
    · cases failed
    · cases failed
      exact spoils_same fun ⟨files, _⟩ => absurd files (by decide)
  · obtain ⟨course, round⟩ := exists_round (fun _ => true) key value m.factories
    rw [outcome_configure own, round.concludes] at failed
    exact spoils_of_round round bundled (alters_iff_takesFilesystem bundled fun _ _ => rfl) failed

theorem spoils_of_configurePlugin {plugin : String} {e : Error}
    (bundled : ∀ pair ∈ m.factories, pair.2.IsBundled)
    (failed : (configurePlugin plugin key value).outcome m = (.error e, n)) :
    Spoils m n key (plugin = "memory" ∧ m.TakesFilesystem value) := by
  rw [outcome_configurePlugin] at failed
  split at failed
  · obtain ⟨course, round⟩ := exists_round (fun f => f.plugin = plugin) key value m.factories
    rw [round.concludes] at failed
    refine spoils_of_round round bundled ?_ failed
    by_cases memory : plugin = "memory"
    · rw [alters_iff_takesFilesystem bundled fun factory same => by simp [same, memory]]
      simp [memory]
    · have spared : ¬ Alters (fun f => f.plugin = plugin) "MemoryFilesystem" value m.factories :=
        not_alters_of_spared bundled fun factory same => by simp [same, Ne.symm memory]
      simp [memory, spared]
  · rename_i absent
    cases failed
    refine spoils_same ?_
    rintro ⟨-, rfl, front, id, tables, back, after, all, -⟩
    refine absent (List.any_eq_true.2 ⟨(id, .memory tables), ?_, rfl⟩)
    simp [all]

/-! ### What was taken so far -/

/-- A value that some factory took, or the manager itself. -/
structure Intake where
  key : String
  value : String
  /-- Nobody refused it afterwards. -/
  kept : Bool

/-- What a round adds to the values that were taken. -/
def Course.intakes (course : Course) (key value : String) : List Intake :=
  if course.takers = [] then [] else [⟨key, value, course.refusal.isNone⟩]

/-- What a manager takes when it is told something. -/
inductive Takes (m : Manager) : Setting → List Intake → Prop where
  | load (plugin : String) : Takes m (.load plugin) []
  | placed {value : String} {policy : PlacementPolicy} (known : PlacementPolicy.parse value = .ok policy) :
      Takes m (.option writePlacement value) [⟨writePlacement, value, true⟩]
  | misplaced {value : String} {e : Error} (unknown : PlacementPolicy.parse value = .error e) :
      Takes m (.option writePlacement value) []
  | offered {key value : String} {course : Course} (apart : key ≠ writePlacement)
      (round : Round (fun _ => true) key value m.factories course) :
      Takes m (.option key value) (course.intakes key value)
  | addressed {plugin key value : String} {course : Course}
      (present : m.factories.any (fun (_, f) => f.plugin = plugin) = true)
      (round : Round (fun f => f.plugin = plugin) key value m.factories course) :
      Takes m (.optionOf plugin key value) (course.intakes key value)
  | unaddressed {plugin key value : String}
      (absent : m.factories.any (fun (_, f) => f.plugin = plugin) = false) :
      Takes m (.optionOf plugin key value) []

theorem exists_takes (m : Manager) (setting : Setting) : ∃ intakes, Takes m setting intakes := by
  cases setting with
  | load plugin => exact ⟨_, .load plugin⟩
  | option key value =>
    by_cases own : key = writePlacement
    · subst own
      cases parsed : PlacementPolicy.parse value with
      | ok policy => exact ⟨_, .placed parsed⟩
      | error e => exact ⟨_, .misplaced parsed⟩
    · obtain ⟨course, round⟩ := exists_round (fun _ => true) key value m.factories
      exact ⟨_, .offered own round⟩
  | optionOf plugin key value =>
    cases present : m.factories.any fun (_, f) => f.plugin = plugin with
    | false => exact ⟨_, .unaddressed present⟩
    | true =>
      obtain ⟨course, round⟩ := exists_round (fun f => f.plugin = plugin) key value m.factories
      exact ⟨_, .addressed present round⟩

/-- A manager with the bundled plugins, and the values that were taken on the way, the last one first.
Stacks may work in between. -/
inductive History : List Intake → Manager → Prop where
  | initial : History [] initial
  | told {intakes new : List Intake} {m : Manager} {setting : Setting} (history : History intakes m)
      (takes : Takes m setting new) : History (new ++ intakes) (setting.act.outcome m).2
  /-- Stacks put other tables into memory factories, and take turns of the placement policy. -/
  | worked {intakes : List Intake} {m : Manager} (history : History intakes m) (id : FactoryId)
      (tables : MemoryTables) (placement : Placement) :
      History intakes { m.setMemory id tables with placement }

/-- Whatever a manager is told has a history. -/
theorem exists_history (settings : List Setting) :
    ∃ intakes, History intakes (Setting.run settings initial).2 := by
  have from_ {intakes : List Intake} {m : Manager} (history : History intakes m) :
      ∃ intakes, History intakes (Setting.run settings m).2 := by
    induction settings generalizing intakes m with
    | nil => exact ⟨intakes, history⟩
    | cons setting rest ih =>
      obtain ⟨new, takes⟩ := m.exists_takes setting
      exact ih (history.told takes)
  exact from_ .initial

/-- The last value for a key. -/
def lastFor (key : String) (intakes : List Intake) : Except Error String :=
  match intakes.find? fun intake => intake.key = key with
  | some intake => .ok intake.value
  | none => .error (.unknownOption key)

/-- The manager has bundled plugins only, and knows of every key the last value that was kept; only
filesystems were taken and not kept. -/
structure Records (intakes : List Intake) (m : Manager) : Prop where
  plugins : m.plugins = bundled
  bundled : ∀ pair ∈ m.factories, pair.2.IsBundled
  noted : ∀ key, m.options.get? key =
    ((intakes.filter Intake.kept).find? fun intake => intake.key = key).map Intake.value
  lost : ∀ intake ∈ intakes, intake.kept = false → intake.key = "MemoryFilesystem"

variable {intakes new : List Intake}

theorem Records.same (records : Records intakes m) (plugins : n.plugins = m.plugins)
    (options : n.options = m.options) (bundled : ∀ pair ∈ n.factories, pair.2.IsBundled) :
    Records intakes n :=
  ⟨plugins.trans records.plugins, bundled, fun key => options ▸ records.noted key, records.lost⟩

/-- Registering brings no factories but the one that is registered. -/
theorem joins_registerAll (id : FactoryId) (factory : Factory) (registrations : List Registration)
    (m : Manager) :
    ((registerAll id factory registrations).outcome m).2.plugins = m.plugins ∧
      ((registerAll id factory registrations).outcome m).2.options = m.options ∧
      ∀ pair ∈ ((registerAll id factory registrations).outcome m).2.factories,
        pair ∈ m.factories ∨ pair = (id, factory) := by
  induction registrations generalizing m with
  | nil => exact ⟨rfl, rfl, fun _ => .inl⟩
  | cons r rest ih =>
    rw [registerAll_cons]
    split
    · cases made : m.register id factory r.kind with
      | error e => exact ⟨rfl, rfl, fun _ => .inl⟩
      | ok after =>
        obtain ⟨plugins, options, joined⟩ := ih after
        have grown := register_eq_ok made
        refine ⟨plugins.trans (by rw [grown]), options.trans (by rw [grown]), fun pair member => ?_⟩
        rcases joined pair member with before | rfl
        · exact mem_factories_register made before
        · exact .inr rfl
    · exact ih m

/-- The bundled plugins register bundled factories. -/
theorem isBundled_of_bundled {name : String} {plugin : Plugin}
    (found : Manager.bundled.get? name = some plugin) :
    ∃ factory registrations, plugin = .registers factory registrations ∧ factory.IsBundled := by
  rw [get?_bundled] at found
  repeat' split at found
  all_goals cases found <;> exact ⟨_, _, rfl, trivial⟩

theorem Records.load (records : Records intakes m) (plugin : String) :
    Records intakes ((load plugin).outcome m).2 := by
  cases found : m.plugins.get? plugin with
  | none =>
    rw [load_of_none found]
    exact records
  | some known =>
    have brought := found
    rw [records.plugins] at brought
    obtain ⟨factory, registrations, rfl, bundled⟩ := isBundled_of_bundled brought
    have joins := joins_registerAll m.nextFactory factory registrations m.numbering
    rw [load_of_registers found]
    generalize (registerAll m.nextFactory factory registrations).outcome m.numbering = done at joins
    obtain ⟨answer, after⟩ := done
    obtain ⟨plugins, options, joined⟩ := joins
    have all : ∀ pair ∈ after.factories, pair.2.IsBundled := by
      intro pair member
      rcases joined pair member with before | rfl
      · exact records.bundled pair before
      · exact bundled
    cases answer with
    | error e => exact records.same plugins options all
    | ok u => exact records.same plugins options all

/-- A bundled factory stays one. -/
theorem isBundled_configure {factory changed : Factory} (bundled : factory.IsBundled)
    (takes : factory.configure key value = .ok changed) : changed.IsBundled := by
  cases factory with
  | custom => cases bundled
  | builtInCatalog | librarian => cases takes
  | memory | disk =>
    obtain ⟨_, -, same⟩ := Error.bind_eq_ok_iff.1 takes
    cases same
    trivial
  | profiler =>
    have same := role_configure takes
    cases changed with
    | custom => cases same
    | _ => trivial

theorem Round.isBundled (round : Round isFor key value factories course)
    (bundled : ∀ pair ∈ factories, pair.2.IsBundled) : ∀ pair ∈ course.left, pair.2.IsBundled := by
  induction round with
  | ended | refused => exact bundled
  | passed other round ih | unknown own declines kind round ih =>
    obtain ⟨here, later⟩ := List.forall_mem_cons.1 bundled
    exact List.forall_mem_cons.2 ⟨here, ih later⟩
  | taken own takes round ih =>
    obtain ⟨here, later⟩ := List.forall_mem_cons.1 bundled
    exact List.forall_mem_cons.2 ⟨isBundled_configure here takes, ih later⟩

/-- What a round took is recorded, and noted if the round came to its end. -/
theorem Records.conclude (records : Records intakes m) (unknown : Error)
    (round : Round isFor key value m.factories course) :
    Records (course.intakes key value ++ intakes) (m.conclude key value unknown course).2 := by
  have left := round.isBundled records.bundled
  have lost : course.refusal ≠ none → course.takers ≠ [] → key = "MemoryFilesystem" := by
    intro refused taken
    by_contra apart
    exact taken (round.untaken records.bundled apart fun spared => absurd spared refused)
  unfold Manager.conclude Course.intakes
  cases refused : course.refusal with
  | some e =>
    by_cases taken : course.takers = []
    · rw [if_pos taken]
      exact records.same rfl rfl left
    · rw [if_neg taken]
      refine ⟨records.plugins, left, fun k => ?_, ?_⟩
      · simpa using records.noted k
      · exact List.forall_mem_cons.2 ⟨fun _ => lost (by simp [refused]) taken, records.lost⟩
  | none =>
    by_cases taken : course.takers = []
    · simp only [if_pos taken]
      exact records.same rfl rfl left
    · simp only [if_neg taken]
      refine ⟨records.plugins, left, fun k => ?_, ?_⟩
      · rw [Table.get?_insert]
        by_cases here : k = key
        · simp [here]
        · simpa [here, Ne.symm here] using records.noted k
      · exact List.forall_mem_cons.2 ⟨nofun, records.lost⟩

theorem records_initial : Records [] initial where
  plugins := rfl
  bundled := by simp [initial, Factory.IsBundled]
  noted key := rfl
  lost := nofun

theorem Records.told (records : Records intakes m) {setting : Setting} (takes : Takes m setting new) :
    Records (new ++ intakes) (setting.act.outcome m).2 := by
  cases takes with
  | load plugin => exact records.load plugin
  | placed known =>
    unfold Setting.act
    rw [outcome_configure_placement, known]
    refine ⟨records.plugins, records.bundled, fun k => ?_,
      List.forall_mem_cons.2 ⟨nofun, records.lost⟩⟩
    rw [Table.get?_insert]
    by_cases here : k = writePlacement
    · simp [here]
    · simpa [here, Ne.symm here] using records.noted k
  | misplaced unknown =>
    unfold Setting.act
    rw [outcome_configure_placement, unknown]
    exact records
  | offered apart round =>
    unfold Setting.act
    rw [outcome_configure apart, round.concludes]
    exact records.conclude _ round
  | addressed present round =>
    unfold Setting.act
    rw [outcome_configurePlugin, if_pos present, round.concludes]
    exact records.conclude _ round
  | unaddressed absent =>
    unfold Setting.act
    rw [outcome_configurePlugin, if_neg (by simp [absent])]
    exact records

theorem isBundled_putTables {id : FactoryId} {tables : MemoryTables}
    (bundled : ∀ pair ∈ factories, pair.2.IsBundled) :
    ∀ pair ∈ putTables id tables factories, pair.2.IsBundled := by
  induction factories with
  | nil => exact bundled
  | cons pair rest ih =>
    obtain ⟨n, factory⟩ := pair
    obtain ⟨here, later⟩ := List.forall_mem_cons.1 bundled
    unfold putTables
    split
    · cases factory <;> exact List.forall_mem_cons.2 ⟨here, later⟩
    · exact List.forall_mem_cons.2 ⟨here, ih later⟩

theorem History.records (history : History intakes m) : Records intakes m := by
  induction history with
  | initial => exact records_initial
  | told history takes ih => exact ih.told takes
  | worked history id tables placement ih => exact ih.same rfl rfl (isBundled_putTables ih.bundled)

/-- Where all values were kept, the last one kept is the last one taken. -/
theorem lastFor_kept (kept : ∀ intake ∈ intakes, intake.key = key → intake.kept = true) :
    lastFor key (intakes.filter Intake.kept) = lastFor key intakes := by
  have same : (intakes.filter Intake.kept).find? (fun intake => intake.key = key) =
      intakes.find? fun intake => intake.key = key := by
    induction intakes with
    | nil => rfl
    | cons intake rest ih =>
      obtain ⟨here, later⟩ := List.forall_mem_cons.1 kept
      by_cases own : intake.key = key
      · simp [own, here own]
      · cases held : intake.kept <;> simp [own, ih later, held]
  unfold lastFor
  rw [same]

/-- A failed option leaves everything as it was, except where a memory factory took a filesystem on its way:
then the pools of that factory are others, while the option is not noted. What is noted for a key is the
last value that was taken and not refused afterwards, and for every key but that of filesystems this is
the last value that was taken. -/
theorem refused_options (history : History intakes m) :
    (∀ key value e n, (configure key value).outcome m = (.error e, n) →
      Spoils m n key (m.TakesFilesystem value)) ∧
    (∀ plugin key value e n, (configurePlugin plugin key value).outcome m = (.error e, n) →
      Spoils m n key (plugin = "memory" ∧ m.TakesFilesystem value)) ∧
    (∀ key, m.option key = lastFor key (intakes.filter Intake.kept)) ∧
    ∀ key, key ≠ "MemoryFilesystem" → m.option key = lastFor key intakes := by
  have records := history.records
  have noted (key : String) : m.option key = lastFor key (intakes.filter Intake.kept) := by
    unfold option lastFor
    rw [records.noted]
    cases (intakes.filter Intake.kept).find? fun intake => intake.key = key <;> rfl
  refine ⟨fun _ _ _ _ => spoils_of_configure records.bundled,
    fun _ _ _ _ _ => spoils_of_configurePlugin records.bundled, noted, fun key apart => ?_⟩
  rw [noted, lastFor_kept fun intake member own => ?_]
  cases kept : intake.kept with
  | true => rfl
  | false => exact absurd (own.symm.trans (records.lost intake member kept)) apart

/-- Loads two memory plugins, of which only the first gets a pool. -/
def unequally : List Setting :=
  [.load "memory", .option "MemoryPool" "disk:filesystem",
    .option "MemoryFilesystem" "disk:localhost:srv/a", .load "memory"]

/-- How many filesystems each pool of a memory factory has. -/
def filesystemCounts (m : Manager) (id : FactoryId) : List (Option Nat) :=
  (m.memory id).pools.values.map fun pool => pool.filesystems.toOption.map List.length

/-- A second filesystem is refused, and the first factory has taken it. The first filesystem is what is
still noted. -/
theorem refused_options_unequal :
    ∃ intakes m e n, History intakes m ∧
      (configure "MemoryFilesystem" "disk:localhost:srv/b").outcome m = (.error e, n) ∧
      m.TakesFilesystem "disk:localhost:srv/b" ∧ n.filesystemCounts 1 = [some 2] ∧
      n.options.get? "MemoryFilesystem" = some "disk:localhost:srv/a" := by
  obtain ⟨intakes, history⟩ := exists_history unequally
  have before : (Setting.run unequally initial).2.filesystemCounts 1 = [some 1] := by decide +kernel
  have refused : ((configure "MemoryFilesystem" "disk:localhost:srv/b").outcome
      (Setting.run unequally initial).2).1.toBool = false := by
    decide +kernel
  have after : ((configure "MemoryFilesystem" "disk:localhost:srv/b").outcome
      (Setting.run unequally initial).2).2.filesystemCounts 1 = [some 2] := by
    decide +kernel
  have noted : ((configure "MemoryFilesystem" "disk:localhost:srv/b").outcome
      (Setting.run unequally initial).2).2.options.get? "MemoryFilesystem" =
        some "disk:localhost:srv/a" := by
    decide +kernel
  generalize (Setting.run unequally initial).2 = m at history before refused after noted
  rcases run : (configure "MemoryFilesystem" "disk:localhost:srv/b").outcome m with ⟨e | _, n⟩
  · rw [run] at after noted
    have spoils := (refused_options history).1 _ _ e n run
    have changed : n ≠ m := by
      rintro rfl
      simp [before] at after
    exact ⟨intakes, m, e, n, history, run, (spoils.changed.1 changed).2, after, noted⟩
  · simp [run, Except.toBool] at refused

end Manager

end Stowage
