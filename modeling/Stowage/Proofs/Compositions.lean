import Mathlib.Data.List.Forall2
import Stowage.Proofs.DiskFactories
import Stowage.Proofs.Rounds

/-! What registrations come to. Of the factories that a manager accepts for a contract the first never
decorates, so that there is always a last one that does not: it makes the innermost node, and those that
were accepted after it wrap the chain in their order. All contracts share one list of factories, in which
each stands once, where it was first accepted; options go along this list. -/
namespace Stowage

namespace List

/-- What is there already is no news, and what is not comes last. -/
theorem eraseDups_concat {α : Type} [BEq α] [LawfulBEq α] [DecidableEq α] (l : List α) (a : α) :
    (l ++ [a]).eraseDups = if a ∈ l then l.eraseDups else l.eraseDups ++ [a] := by
  rw [List.eraseDups_append]
  by_cases known : a ∈ l <;> simp [List.removeAll, known, List.eraseDups_cons]

theorem nodup_eraseDups {α : Type} [BEq α] [LawfulBEq α] [DecidableEq α] (l : List α) :
    l.eraseDups.Nodup := by
  induction l using List.reverseRecOn with
  | nil => simp
  | append_singleton front last ih =>
    rw [eraseDups_concat]
    split
    · exact ih
    · rename_i fresh
      refine List.nodup_append.2 ⟨ih, by simp, fun a member b same equal => fresh ?_⟩
      rw [← List.mem_singleton.1 same, ← equal]
      exact List.mem_eraseDups.1 member

end List

/-- Without a base, everything decorates. -/
theorem splitAtBase_eq_none_iff {φ : Type} {decorates : φ → Bool} {factories : List φ} :
    splitAtBase decorates factories = none ↔ ∀ f ∈ factories, decorates f = true := by
  induction factories using List.reverseRecOn with
  | nil => simp [splitAtBase]
  | append_singleton front last ih =>
    rw [splitAtBase_concat]
    cases wraps : decorates last <;> simp [wraps, ih, or_imp, forall_and]

namespace Manager

/-! ### Registrations in turn -/

/-- The factories: the built-in catalog under the first number, and others, brought from elsewhere. -/
def catalogAnd (brought : Nat → Factory) : FactoryId → Factory
  | 0 => .builtInCatalog
  | n + 1 => brought n

/-- Registers a factory for a contract. -/
def enrol (object : FactoryId → Factory) (call : ContractKind × FactoryId) : Action Manager Unit :=
  registerAll call.2 (object call.2) [{ kind := call.1 }]

/-- The calls with their answers, and the manager in the end. A refusal does not keep others back. -/
def enrolAll (object : FactoryId → Factory) : List (ContractKind × FactoryId) → Manager →
    List ((ContractKind × FactoryId) × Except Error Unit) × Manager
  | [], m => ([], m)
  | call :: rest, m =>
    let (answer, after) := (enrol object call).outcome m
    let (answers, last) := enrolAll object rest after
    ((call, answer) :: answers, last)

/-- The calls that were accepted, in order. -/
def acceptedOf (answers : List ((ContractKind × FactoryId) × Except Error Unit)) :
    List (ContractKind × FactoryId) :=
  (answers.filter fun entry => entry.2.isOk).map Prod.fst

/-- The factories among registrations that are for a contract. -/
def listedFor (kind : ContractKind) (registrations : List (ContractKind × FactoryId)) :
    List FactoryId :=
  (registrations.filter fun pair => pair.1 = kind).map Prod.snd

/-- The factories of registrations, each where it comes first. -/
def firsts (registrations : List (ContractKind × FactoryId)) : List FactoryId :=
  (registrations.map Prod.snd).eraseDups

/-- The manager has accepted these registrations, of these factories. -/
structure Enrolled (object : FactoryId → Factory) (roll : List (ContractKind × FactoryId))
    (m : Manager) : Prop where
  registrations : m.registrations = roll
  factories : m.factories = (firsts roll).map fun id => (id, object id)
  /-- What comes first for a contract with chains does not decorate. -/
  based : ∀ kind id rest, kind ≠ .driver → listedFor kind roll = id :: rest →
    (object id).decorates kind = false

variable {object : FactoryId → Factory} {roll : List (ContractKind × FactoryId)}
  {m after : Manager} {kind : ContractKind} {id : FactoryId}

theorem listedFor_concat (roll : List (ContractKind × FactoryId)) (kind k : ContractKind)
    (id : FactoryId) :
    listedFor k (roll ++ [(kind, id)]) =
      listedFor k roll ++ if kind = k then [id] else [] := by
  by_cases here : kind = k <;> simp [listedFor, here]

theorem listedFor_ne_nil_iff :
    listedFor kind roll ≠ [] ↔ ∃ id, (kind, id) ∈ roll := by
  simp [listedFor, List.filter_eq_nil_iff]

namespace Enrolled

theorem factory?_eq (enrolled : Enrolled object roll m) (id : FactoryId) :
    m.factory? id = if id ∈ roll.map Prod.snd then some (object id) else none := by
  have known : id ∈ roll.map Prod.snd ↔ id ∈ firsts roll := List.mem_eraseDups.symm
  unfold factory?
  rw [enrolled.factories, List.find?_map, Option.map_map]
  by_cases member : id ∈ firsts roll
  · obtain ⟨found, same⟩ : ∃ n, (firsts roll).find? (fun n => n = id) = some n :=
      Option.isSome_iff_exists.1 (by simpa using member)
    obtain rfl : found = id := by simpa using List.find?_some same
    simp only [Function.comp_def]
    rw [same, if_pos (known.2 member)]
    rfl
  · have missed : (firsts roll).find? (fun n => n = id) = none :=
      List.find?_eq_none.2 fun n there equal => member (of_decide_eq_true equal ▸ there)
    simp only [Function.comp_def]
    rw [missed, if_neg fun there => member (known.1 there)]
    rfl

theorem hasFactory_iff (enrolled : Enrolled object roll m) :
    m.hasFactory kind = true ↔ listedFor kind roll ≠ [] := by
  rw [Manager.hasFactory_iff, enrolled.registrations, listedFor_ne_nil_iff]

/-- The factories registered for a contract are those accepted for it. -/
theorem registered_eq (enrolled : Enrolled object roll m) (kind : ContractKind) :
    m.registered kind = (listedFor kind roll).map fun id => (id, object id) := by
  unfold registered listedFor
  rw [enrolled.registrations, List.map_map, ← List.filterMap_eq_map, List.filterMap_filter]
  refine List.filterMap_congr fun pair member => ?_
  have known : pair.2 ∈ roll.map Prod.snd := List.mem_map_of_mem member
  by_cases here : pair.1 = kind <;> simp [here, enrolled.factory?_eq, known]

/-- One more registration. -/
theorem register (enrolled : Enrolled object roll m)
    (done : m.register id (object id) kind = .ok after) :
    Enrolled object (roll ++ [(kind, id)]) after := by
  have all := enrolled.registrations
  have known : (m.factory? id).isSome = true ↔ id ∈ roll.map Prod.snd := by
    rw [enrolled.factory?_eq]
    split <;> simp [*]
  rw [register_eq_ok done]
  refine ⟨by rw [all], ?_, fun k first rest chained listed => ?_⟩
  · unfold firsts
    rw [List.map_append, List.map_singleton, List.eraseDups_concat]
    simp only [known, enrolled.factories]
    split <;> simp [firsts]
  · rw [listedFor_concat] at listed
    cases before : listedFor k roll with
    | cons head tail =>
      rw [before] at listed
      cases listed
      exact enrolled.based k _ tail chained before
    | nil =>
      rw [before] at listed
      by_cases here : kind = k
      · subst here
        obtain ⟨rfl, -⟩ : id = first ∧ [] = rest := by simpa using listed
        cases wraps : (object id).decorates kind with
        | false => rfl
        | true =>
          exact absurd before (enrolled.hasFactory_iff.1 (hasFactory_of_register wraps chained done))
      · simp [here] at listed

end Enrolled

theorem outcome_enrol (object : FactoryId → Factory) (kind : ContractKind) (id : FactoryId)
    (m : Manager) :
    (enrol object (kind, id)).outcome m =
      match m.register id (object id) kind with
      | .ok after => (.ok (), after)
      | .error e => (.error e, m) := by
  unfold enrol
  rw [registerAll_cons, if_pos (.inl Bool.false_ne_true)]
  rfl

/-- A factory that decorates is refused where it comes first, for a contract with chains. -/
theorem register_refuses_iff {factory : Factory} :
    (∃ e, m.register id factory kind = .error e) ↔
      kind ≠ .driver ∧ factory.decorates kind = true ∧ ¬ m.hasFactory kind = true := by
  unfold Manager.register
  split <;> simp_all

/-- A run of roll adds those that are accepted. -/
theorem Enrolled.enrolAll (enrolled : Enrolled object roll m)
    (calls : List (ContractKind × FactoryId)) :
    Enrolled object (roll ++ acceptedOf (Manager.enrolAll object calls m).1)
      (Manager.enrolAll object calls m).2 := by
  induction calls generalizing roll m with
  | nil => simpa [Manager.enrolAll, acceptedOf] using enrolled
  | cons call rest ih =>
    obtain ⟨kind, id⟩ := call
    unfold Manager.enrolAll
    rw [outcome_enrol]
    cases made : m.register id (object id) kind with
    | error e => exact ih enrolled
    | ok after =>
      rw [show ∀ answers, acceptedOf (((kind, id), .ok ()) :: answers) = (kind, id) :: acceptedOf answers
        from fun _ => rfl]
      simpa using ih (enrolled.register made)

theorem enrolled_initial (brought : Nat → Factory) :
    Enrolled (catalogAnd brought) [(.catalog, 0)] initial := by
  refine ⟨rfl, rfl, fun kind id rest chained listed => ?_⟩
  by_cases here : ContractKind.catalog = kind
  · obtain ⟨rfl, -⟩ : 0 = id ∧ [] = rest := by simpa [listedFor, here] using listed
    rfl
  · simp [listedFor, here] at listed

/-! ### Chains -/

section Composition

variable {τ : Type} {node : FactoryId → Factory → Except Error τ}

/-- Each of these factories makes its node for a contract, be it to wrap others or not. -/
def Productive (object : FactoryId → Factory) (kind : ContractKind) (listed : List FactoryId)
    (node : FactoryId → Factory → Except Error τ) : Prop :=
  ∀ id ∈ listed,
    ((object id).decorates kind = true → ∃ d, (object id).decorator kind = .ok d) ∧
    ((object id).decorates kind = false → ∃ inner, node id (object id) = .ok inner)

/-- What is made for a contract is the chain of the factories that were accepted for it: the last one
that does not decorate made the innermost node, and those after it the nodes around it, the last one the
outermost. Where none was accepted, and only there, no factory provides the contract. -/
structure Composes (object : FactoryId → Factory) (kind : ContractKind) (listed : List FactoryId)
    (node : FactoryId → Factory → Except Error τ) (created : Except Error (Chain τ)) : Prop where
  missing : (∃ e, created = .error e ∧ e.kind = .noFactory) ↔ listed = []
  chained : listed ≠ [] → ∃ front base wrappers chain,
    listed = front ++ base :: wrappers ∧
    (object base).decorates kind = false ∧
    (∀ id ∈ wrappers, (object id).decorates kind = true) ∧
    created = .ok chain ∧
    node base (object base) = .ok chain.base ∧
    List.Forall₂ (fun d id => (object id).decorator kind = .ok d) chain.decorators wrappers.reverse

theorem wrapAll_of_made {wrappers : List FactoryId} (inner : Chain τ)
    (makes : ∀ id ∈ wrappers, ∃ d, (object id).decorator kind = .ok d) :
    ∃ decorators, wrapAll kind inner (wrappers.map fun id => (id, object id)) =
        .ok ⟨decorators ++ inner.decorators, inner.base⟩ ∧
      List.Forall₂ (fun d id => (object id).decorator kind = .ok d) decorators wrappers.reverse := by
  induction wrappers generalizing inner with
  | nil => exact ⟨[], rfl, .nil⟩
  | cons id rest ih =>
    obtain ⟨⟨d, made⟩, later⟩ := List.forall_mem_cons.1 makes
    obtain ⟨decorators, wrapped, alike⟩ := ih (inner.wrap d) later
    refine ⟨decorators ++ [d], ?_, ?_⟩
    · have here : wrapAll kind inner ((id :: rest).map fun id => (id, object id)) =
          wrapAll kind (inner.wrap d) (rest.map fun id => (id, object id)) := by
        simp [wrapAll, made, bind, Except.bind]
      rw [here, wrapped]
      simp [Chain.wrap]
    · rw [List.reverse_cons]
      exact List.rel_append alike (.cons made .nil)

/-- The chain of a contract is that of the factories accepted for it. -/
theorem Enrolled.composes (enrolled : Enrolled object roll m) (chained : kind ≠ .driver)
    (productive : Productive object kind (listedFor kind roll) node) :
    Composes object kind (listedFor kind roll) node (m.compose kind node) := by
  have split : splitAtBase (fun pair => pair.2.decorates kind) (m.registered kind) =
      (splitAtBase (fun id => (object id).decorates kind) (listedFor kind roll)).map
        fun split => ((split.1, object split.1), split.2.map fun id => (id, object id)) := by
    rw [enrolled.registered_eq]
    exact splitAtBase_map _
  cases listed : listedFor kind roll with
  | nil =>
    have missing : m.compose kind node = .error (.noFactory kind) := by
      unfold compose
      rw [split, listed]
      rfl
    refine ⟨⟨fun _ => rfl, fun _ => ⟨_, missing, ?_⟩⟩, fun some_ => absurd rfl some_⟩
    cases kind <;> rfl
  | cons first rest =>
    rw [listed] at split productive
    have base? : splitAtBase (fun id => (object id).decorates kind) (first :: rest) ≠ none := by
      intro missing
      have wraps := splitAtBase_eq_none_iff.1 missing first List.mem_cons_self
      exact Bool.false_ne_true ((enrolled.based kind first rest chained listed).symm.trans wraps)
    obtain ⟨⟨base, wrappers⟩, found⟩ := Option.ne_none_iff_exists'.1 base?
    obtain ⟨front, all, plain, wraps⟩ := splitAtBase_eq_some found
    have made : ∀ id ∈ first :: rest, _ := productive
    rw [all] at made
    obtain ⟨inner, innermost⟩ := (made base (by simp)).2 plain
    obtain ⟨decorators, wrapped, alike⟩ := wrapAll_of_made (Chain.single inner)
      fun id member => (made id (by simp [member])).1 (wraps id member)
    have created : m.compose kind node = .ok ⟨decorators, inner⟩ := by
      unfold compose
      rw [split, found]
      simp only [Option.map_some, innermost]
      exact wrapped.trans (by simp [Chain.single])
    refine ⟨⟨?_, nofun⟩,
      fun _ => ⟨front, base, wrappers, _, all, plain, wraps, created, innermost, alike⟩⟩
    rintro ⟨e, failed, -⟩
    cases created.symm.trans failed

/-- If those accepted for a contract make their nodes, then what is made for it is their chain. -/
def Assembles (object : FactoryId → Factory) (roll : List (ContractKind × FactoryId))
    (kind : ContractKind) (node : FactoryId → Factory → Except Error τ)
    (created : Except Error (Chain τ)) : Prop :=
  Productive object kind (listedFor kind roll) node →
    Composes object kind (listedFor kind roll) node created

end Composition

/-- Whatever was registered with a new manager, and whatever of it was refused: a factory that decorates
is refused where it comes first and nowhere else, and then nothing has changed; the factories accepted
for a contract make up its chain; and an option is offered to every accepted factory once, in the order
of their first acceptance, up to the first that refuses its value. -/
theorem compositions_of_registrations {brought : Nat → Factory}
    {calls : List (ContractKind × FactoryId)}
    {answers : List ((ContractKind × FactoryId) × Except Error Unit)} {m : Manager}
    {roll : List (ContractKind × FactoryId)}
    (ends : enrolAll (catalogAnd brought) calls initial = (answers, m))
    (accepted : roll = (.catalog, 0) :: acceptedOf answers) :
    (∀ kind id,
      ((∃ e, ((enrol (catalogAnd brought) (kind, id)).outcome m).1 = .error e) ↔
        kind ≠ .driver ∧ (catalogAnd brought id).decorates kind = true ∧ listedFor kind roll = []) ∧
      ∀ e, ((enrol (catalogAnd brought) (kind, id)).outcome m).1 = .error e →
        ((enrol (catalogAnd brought) (kind, id)).outcome m).2 = m) ∧
    (∀ kind, m.hasFactory kind = true ↔ listedFor kind roll ≠ []) ∧
    Assembles (catalogAnd brought) roll .accounts (fun id f => f.tableNode .accounts id)
      m.createAccounts ∧
    Assembles (catalogAnd brought) roll .inode (fun id f => f.tableNode .inode id) m.createInode ∧
    Assembles (catalogAnd brought) roll .pools (fun id f => f.tableNode .pools id) m.createPools ∧
    Assembles (catalogAnd brought) roll .io (fun _ f => f.ioNode) m.createIo ∧
    Assembles (catalogAnd brought) roll .catalog (fun _ f => m.catalogNode f) m.createCatalog ∧
    (firsts roll).Nodup ∧
    ∀ key value, key ≠ writePlacement → ∃ course,
      Round (fun _ => true) key value ((firsts roll).map fun id => (id, catalogAnd brought id)) course ∧
      (configure key value).outcome m = m.conclude key value (.unknownOption key) course ∧
      course.asked <+: firsts roll ∧ (course.refusal = none → course.asked = firsts roll) := by
  have enrolled : Enrolled (catalogAnd brought) roll m := by
    have run := (enrolled_initial brought).enrolAll calls
    rw [ends] at run
    rw [accepted]
    exact run
  refine ⟨fun kind id => ⟨?_, fun e refused => ?_⟩, fun _ => enrolled.hasFactory_iff,
    enrolled.composes nofun, enrolled.composes nofun, enrolled.composes nofun,
    enrolled.composes nofun, enrolled.composes nofun, List.nodup_eraseDups _, fun key value other => ?_⟩
  · have unlisted : listedFor kind roll = [] ↔ ¬ m.hasFactory kind = true := by
      rw [enrolled.hasFactory_iff, not_not]
    rw [unlisted, ← register_refuses_iff, outcome_enrol]
    cases m.register id (catalogAnd brought id) kind <;> simp
  · rw [outcome_enrol] at refused ⊢
    cases made : m.register id (catalogAnd brought id) kind with
    | ok after => simp [made] at refused
    | error e => rfl
  · obtain ⟨course, round⟩ := exists_round (fun _ => true) key value m.factories
    have order := round.asked_prefix
    simp only [enrolled.factories, List.filter_true, List.map_map] at order
    refine ⟨course, enrolled.factories ▸ round, ?_, ?_⟩
    · unfold configure
      rw [if_neg other]
      exact round.concludes _
    · simpa [Function.comp_def] using order

/-- Two memory factories and two profilers. -/
def mixed : Nat → Factory
  | 1 | 3 => .profiler 1000
  | _ => .memory {}

/-- Of the profilers the one that came first was refused, and the other may stand between two bases. -/
theorem compositions_of_registrations_pools :
    Composes (catalogAnd mixed) .pools [1, 2, 3, 4] (fun id f => f.tableNode .pools id)
      (enrolAll (catalogAnd mixed) [(.pools, 2), (.pools, 1), (.pools, 2), (.pools, 3), (.pools, 4)]
        initial).2.createPools := by
  have made : Productive (catalogAnd mixed) .pools [1, 2, 3, 4] fun id f => f.tableNode .pools id := by
    simp [Productive, catalogAnd, mixed, Factory.decorates, Factory.decorator, Factory.tableNode]
  exact (@compositions_of_registrations mixed
    [(.pools, 2), (.pools, 1), (.pools, 2), (.pools, 3), (.pools, 4)] _ _ _ rfl rfl).2.2.2.2.1 made

end Manager
end Stowage
