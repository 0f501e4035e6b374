import Mathlib.Data.List.Sort
import Stowage.Proofs.Ancestry
import Stowage.Proofs.Creation
import Stowage.Proofs.ReplicaRights

/-! What a directory hides from an identity that may not search it. Two namespaces that differ only below
the directory, in what is there, how it is called, who may do what with it and which replicas it has,
answer every sequence of looks and moves of that identity alike. Each walk is refused at the directory
before a child is looked up, and what is looked at elsewhere is the same in both. -/
namespace Stowage

/-- The request looks, or moves the working directory. -/
def CatalogRequest.browses : CatalogRequest → Bool
  | .changeDir _ => true
  | r => r.looks

/-- Two lists in one strict order that have the same members are the same. -/
theorem eq_of_strictly_ordered {α : Type} {r : α → α → Prop} (asymmetric : ∀ {a b}, r a b → ¬ r b a)
    {l k : List α} (ordered : l.Pairwise r) (also_ : k.Pairwise r) (same : ∀ a, a ∈ l ↔ a ∈ k) :
    l = k := by
  have irreflexive : Std.Irrefl r := ⟨fun _ less => asymmetric less less⟩
  have antisymmetric : Std.Antisymm r := ⟨fun _ _ less more => absurd more (asymmetric less)⟩
  exact ordered.eq_of_mem_iff also_ same

/-- Two tables that are in order have the same pairs among those that are kept, in the same order, if the
look-ups of these agree. -/
theorem Table.filter_eq_of_shared {κ ν : Type} [Ord κ] [Std.TransOrd κ] [Std.LawfulEqOrd κ]
    {t u : Table κ ν} (ordered : t.Ordered) (also_ : u.Ordered) {keep : κ × ν → Bool}
    (shared : ∀ key value, keep (key, value) = true →
      (t.get? key = some value ↔ u.get? key = some value)) :
    t.entries.filter keep = u.entries.filter keep := by
  refine eq_of_strictly_ordered (fun less more => ?_) (ordered.filter _) (also_.filter _) ?_
  · cases (Std.OrientedCmp.gt_of_lt less).symm.trans more
  · rintro ⟨key, value⟩
    rw [List.mem_filter, List.mem_filter, ← Table.get?_eq_some_iff ordered,
      ← Table.get?_eq_some_iff also_]
    exact and_congr_left (shared key value)

namespace Namespace

variable {ctx : SecurityContext} {top : Nat} {ns ms next : Namespace}

/-- The entry with the number is not below the directory. -/
def Outside (ns : Namespace) (top ino : Nat) (entry : Entry) : Prop :=
  ns.entries.get? ino = some entry ∧ ¬ ns.Above top ino

/-- Two namespaces have the same entries, with the same replicas, but for what is below a directory. -/
structure AgreeOutside (top : Nat) (ns ms : Namespace) : Prop where
  entries : ∀ ino entry, ns.Outside top ino entry ↔ ms.Outside top ino entry
  rows : ∀ ino entry, ns.Outside top ino entry → ∀ id row, row.file = ino →
    (ns.replicas.get? id = some row ↔ ms.replicas.get? id = some row)

theorem AgreeOutside.symm (agree : AgreeOutside top ns ms) : AgreeOutside top ms ns where
  entries ino entry := (agree.entries ino entry).symm
  rows ino entry outside id row file :=
    (agree.rows ino entry ((agree.entries ino entry).2 outside) id row file).symm

/-- Two namespaces in good order that agree outside a directory which the identity may not search. -/
structure Twins (ctx : SecurityContext) (top : Nat) (ns ms : Namespace) : Prop where
  tree : ns.Tree
  twin : ms.Tree
  rows : ns.replicas.Ordered
  twinRows : ms.replicas.Ordered
  agree : AgreeOutside top ns ms
  refused : ∃ dir, ns.entries.get? top = some dir ∧ dir.permits ctx Mode.search = false

theorem Tree.outside_self (tree : ns.Tree) {dir : Entry} (there : ns.entries.get? top = some dir) :
    ns.Outside top top dir :=
  ⟨there, fun above => Nat.lt_irrefl _ (above.lt tree)⟩

theorem Twins.symm (twins : Twins ctx top ns ms) : Twins ctx top ms ns where
  tree := twins.twin
  twin := twins.tree
  rows := twins.twinRows
  twinRows := twins.rows
  agree := twins.agree.symm
  refused := by
    obtain ⟨dir, there, refused⟩ := twins.refused
    exact ⟨dir, ((twins.agree.entries _ _).1 (twins.tree.outside_self there)).1, refused⟩

/-- In neither namespace is the number that of the directory, or below it. -/
structure Beside (top : Nat) (ns ms : Namespace) (ino : Nat) : Prop where
  other : ino ≠ top
  here : ¬ ns.Above top ino
  there : ¬ ms.Above top ino

theorem Beside.symm {ino : Nat} (beside : Beside top ns ms ino) : Beside top ms ns ino :=
  ⟨beside.other, beside.there, beside.here⟩

/-- What hangs beside the directory is not below it. -/
theorem Beside.outside {parent ino : Nat} {entry : Entry} (beside : Beside top ns ms parent)
    (there : ns.entries.get? ino = some entry) (hangs : entry.parent = parent) :
    ns.Outside top ino entry := by
  refine ⟨there, fun above => ?_⟩
  subst hangs
  exact ((above_iff there).1 above).elim beside.other beside.here

section Walks

variable (twins : Twins ctx top ns ms)
include twins

/-- Above the root there is nothing, the directory included. -/
theorem Twins.beside_rootParent : Beside top ns ms rootParent where
  other := by
    rintro rfl
    obtain ⟨dir, there, -⟩ := twins.refused
    cases twins.tree.get?_rootParent.symm.trans there
  here := not_above_of_get?_none twins.tree.get?_rootParent
  there := not_above_of_get?_none twins.twin.get?_rootParent

/-- An entry outside that may be searched is not the directory. -/
theorem Twins.beside_of_searchable {ino : Nat} {entry : Entry} (outside : ns.Outside top ino entry)
    (searchable : entry.permits ctx Mode.search = true) : Beside top ns ms ino where
  other := by
    rintro rfl
    obtain ⟨dir, there, refused⟩ := twins.refused
    cases there.symm.trans outside.1
    cases refused.symm.trans searchable
  here := outside.2
  there := ((twins.agree.entries _ _).1 outside).2

/-- Beside the directory, a name leads in both to the same number. -/
theorem Twins.named {parent ino : Nat} {name : String} (beside : Beside top ns ms parent)
    (found : ns.names.get? ⟨parent, name⟩ = some ino) : ms.names.get? ⟨parent, name⟩ = some ino := by
  obtain ⟨entry, there, bears⟩ := (twins.tree.indexed _ _).1 found
  have outside := beside.outside there (NameKey.mk.inj bears).1.symm
  exact (twins.twin.indexed _ _).2 ⟨entry, ((twins.agree.entries _ _).1 outside).1, bears⟩

/-- Beside the directory, a look-up by name gives the same in both. -/
theorem Twins.child_eq {parent : Nat} (beside : Beside top ns ms parent) (name : String) :
    ns.child parent name = ms.child parent name := by
  have names : ns.names.get? ⟨parent, name⟩ = ms.names.get? ⟨parent, name⟩ :=
    Option.ext fun ino => ⟨twins.named beside, twins.symm.named beside.symm⟩
  cases found : ns.names.get? ⟨parent, name⟩ with
  | none => rw [child, child, ← names, found]; rfl
  | some ino =>
    obtain ⟨entry, there, bears⟩ := (twins.tree.indexed _ _).1 found
    have outside := beside.outside there (NameKey.mk.inj bears).1.symm
    have twin := ((twins.agree.entries _ _).1 outside).1
    rw [child, child, ← names, found]
    exact (entry_eq_ok_iff.2 there).trans (entry_eq_ok_iff.2 twin).symm

theorem Twins.child_outside {parent : Nat} {name : String} {entry : Entry}
    (beside : Beside top ns ms parent) (found : ns.child parent name = .ok entry) :
    ns.Outside top entry.stat.ino entry := by
  obtain ⟨hangs, there⟩ := twins.tree.child_stored found
  exact beside.outside there hangs

/-- A way that begins outside stays outside, for it does not lead through the directory. -/
theorem Twins.opens_outside {current target : Entry} {names : List String}
    (opens : ns.Opens ctx current names target) (outside : ns.Outside top current.stat.ino current) :
    ns.Outside top target.stat.ino target := by
  induction opens with
  | here => exact outside
  | down _ searchable found _ ih =>
    exact ih (twins.child_outside (twins.beside_of_searchable outside searchable) found)

/-- Walks from outside end in the same way in both. -/
theorem Twins.descend_eq (path : String) (walked names : List String) {current : Entry}
    (outside : ns.Outside top current.stat.ino current) :
    ns.descend ctx path walked current names = ms.descend ctx path walked current names := by
  induction names generalizing walked current with
  | nil => rfl
  | cons name rest ih =>
    unfold descend
    by_cases searchable : current.permits ctx Mode.search = true
    · have beside := twins.beside_of_searchable outside searchable
      rw [← twins.child_eq beside name]
      cases found : ns.child current.stat.ino name with
      | error e => rfl
      | ok down => simp only [ih (walked ++ [name]) (twins.child_outside beside found)]
    · simp only [searchable]
      rfl

theorem Twins.find_eq (path : String) : ns.find ctx path = ms.find ctx path := by
  unfold find
  rw [← twins.child_eq twins.beside_rootParent]
  cases found : ns.child rootParent "/" with
  | error e => rfl
  | ok root => exact twins.descend_eq path [] _ (twins.child_outside twins.beside_rootParent found)

theorem Twins.find_outside {path : String} {entry : Entry} (found : ns.find ctx path = .ok entry) :
    ns.Outside top entry.stat.ino entry := by
  obtain ⟨root, top_, opens⟩ := find_eq_ok_iff.1 found
  exact twins.opens_outside opens (twins.child_outside twins.beside_rootParent top_)

/-- Directories beside the one that is refused list the same entries. -/
theorem Twins.readDir_eq {dir : Entry} (outside : ns.Outside top dir.stat.ino dir)
    (directory : dir.stat.isDirectory = true) (beside : Beside top ns ms dir.stat.ino) :
    ns.readDir dir.stat.ino = ms.readDir dir.stat.ino := by
  have twin := ((twins.agree.entries _ _).1 outside).1
  obtain ⟨listed, read, members, sorted⟩ := twins.tree.readDir_lists outside.1 directory
  obtain ⟨others, reread, those, resorted⟩ := twins.twin.readDir_lists twin directory
  have same : listed = others := by
    refine eq_of_strictly_ordered String.lt_asymm sorted resorted fun entry => ?_
    rw [members, those]
    refine and_congr_left fun hangs => ⟨fun there => ?_, fun there => ?_⟩
    · exact ((twins.agree.entries _ _).1 (beside.outside there hangs)).1
    · exact ((twins.agree.entries _ _).2 (beside.symm.outside there hangs)).1
  rw [read, reread, same]

/-- Files outside have the same replicas. -/
theorem Twins.replicasOf_eq {ino : Nat} {file : Entry} (outside : ns.Outside top ino file) :
    ns.replicasOf ino = ms.replicasOf ino := by
  have twin := ((twins.agree.entries _ _).1 outside).1
  have rows : (ns.replicas.entries.filter fun pair => decide (pair.2.file = ino)) =
      ms.replicas.entries.filter fun pair => decide (pair.2.file = ino) :=
    Table.filter_eq_of_shared twins.rows twins.twinRows fun id row kept =>
      twins.agree.rows ino file outside id row (of_decide_eq_true kept)
  have values : (ns.replicas.values.filter fun r => r.file = ino) =
      ms.replicas.values.filter fun r => r.file = ino := by
    simpa [Table.values, List.filter_map, Function.comp_def] using congrArg (List.map Prod.snd) rows
  rw [replicasOf, replicasOf, entry_eq_ok_iff.2 outside.1, entry_eq_ok_iff.2 twin, values]

end Walks

/-- No request takes the replicas out of the order of their ids. -/
theorem ordered_replicas_after (ordered : ns.replicas.Ordered) (r : InodeRequest) :
    (ns.after r).replicas.Ordered := by
  cases rowsStep_after ns r with
  | fewer rows => exact ordered.sublist rows
  | added _ _ _ _ rows | updated _ _ _ _ rows =>
    rw [rows]
    exact Table.ordered_insert ordered _ _

theorem ordered_replicas_run (ordered : ns.replicas.Ordered) (requests : List InodeRequest) :
    (ns.run requests).replicas.Ordered := by
  induction requests generalizing ns with
  | nil => exact ordered
  | cons r rest ih => exact ih (ordered_replicas_after ordered r)

section Creation

variable {template created dir : Entry}

/-- A new entry is above nothing, so what was below a directory is below it still, and nothing else. -/
theorem above_of_create (tree : ns.Tree) (made : ns.create template = .ok (created, next)) {ino : Nat}
    {entry : Entry} (there : ns.entries.get? ino = some entry) :
    next.Above top ino ↔ ns.Above top ino := by
  have kept : ∀ {number : Nat}, number < ns.nextIno →
      next.entries.get? number = ns.entries.get? number := by
    intro number out
    obtain ⟨-, -, rfl⟩ := create_eq_ok made
    rw [Table.get?_insert, if_neg (Nat.ne_of_lt out)]
  induction ino using Nat.strongRecOn generalizing entry with
  | ind ino ih =>
    have out := tree.numbered _ _ there
    have less := tree.parent_lt there
    rw [above_iff there, above_iff ((kept out).trans there)]
    refine or_congr_right ?_
    cases held : ns.entries.get? entry.parent with
    | some parent => exact ih _ less held
    | none =>
      have gone := (kept (Nat.lt_trans less out)).trans held
      exact iff_of_false (not_above_of_get?_none gone) (not_above_of_get?_none held)

/-- The namespace after an entry has been made. -/
theorem after_of_create (made : ns.create template = .ok (created, next)) :
    ns.after (.create template) = next := by
  have run : handler (.create template) ns = .ok created next :=
    Action.update_of_ok (f := (Namespace.create · template)) made
  unfold Namespace.after
  rw [Action.outcome_of_ok run]

/-- What is made in a directory makes no difference outside it. -/
theorem agreeOutside_of_create (tree : ns.Tree) (made : ns.create template = .ok (created, next)) :
    AgreeOutside template.parent ns next := by
  have inside : next.Above template.parent ns.nextIno := by
    obtain ⟨-, rfl, rfl⟩ := create_eq_ok made
    exact .parent ((Table.get?_insert _ _ _ _).trans (if_pos rfl)) rfl
  have replicas : next.replicas = ns.replicas := by
    obtain ⟨-, -, rfl⟩ := create_eq_ok made
    rfl
  have others : ∀ ino, ino ≠ ns.nextIno → next.entries.get? ino = ns.entries.get? ino := by
    intro ino other
    obtain ⟨-, -, rfl⟩ := create_eq_ok made
    rw [Table.get?_insert, if_neg other]
  constructor
  · intro ino entry
    by_cases new : ino = ns.nextIno
    · subst new
      refine iff_of_false (fun outside => ?_) fun outside => outside.2 inside
      exact Nat.lt_irrefl _ (tree.numbered _ _ outside.1)
    · unfold Outside
      rw [others ino new]
      exact and_congr_right fun there => not_congr (above_of_create tree made there).symm
  · intro _ _ _ id row _
    rw [replicas]

end Creation
end Namespace

namespace BuiltIn

open Namespace

variable {α β : Type} {ctx : SecurityContext} {top : Nat} {ns ms : Namespace}
  {session : CatalogSession}

/-- Over two namespaces, the action gives one session the same answer and leaves it the same, with the
identity that it has; and it leaves the namespaces alone. -/
def Alike (ns ms : Namespace) (session : CatalogSession) (act : Action (Browsing Namespace) α) : Prop :=
  ∃ answer after, after.security = session.security ∧
    act.outcome ⟨session, ns⟩ = (answer, ⟨after, ns⟩) ∧
    act.outcome ⟨session, ms⟩ = (answer, ⟨after, ms⟩)

section Sequences

variable {act : Action (Browsing Namespace) α}

theorem Alike.of_answer (answer : Except Error α)
    (here : act ⟨session, ns⟩ = Action.ofExcept answer ⟨session, ns⟩)
    (there : act ⟨session, ms⟩ = Action.ofExcept answer ⟨session, ms⟩) : Alike ns ms session act := by
  cases answer with
  | ok a => exact ⟨_, session, rfl, Action.outcome_of_ok here, Action.outcome_of_ok there⟩
  | error e => exact ⟨_, session, rfl, Action.outcome_of_error here, Action.outcome_of_error there⟩

theorem alike_pure (a : α) : Alike ns ms session (pure a) :=
  ⟨_, session, rfl, rfl, rfl⟩

/-- After one answer to both, only what follows that answer has to be alike. -/
theorem Alike.after_answer (answer : Except Error α) {next : α → Action (Browsing Namespace) β}
    (here : act ⟨session, ns⟩ = Action.ofExcept answer ⟨session, ns⟩)
    (there : act ⟨session, ms⟩ = Action.ofExcept answer ⟨session, ms⟩)
    (rest : ∀ a, answer = .ok a → Alike ns ms session (next a)) :
    Alike ns ms session (act >>= next) := by
  cases answer with
  | ok a =>
    obtain ⟨answer, after, same, left, right⟩ := rest a rfl
    exact ⟨answer, after, same, (Action.outcome_bind_of_ok here).trans left,
      (Action.outcome_bind_of_ok there).trans right⟩
  | error e =>
    exact .of_answer (.error e) (Action.bind_of_error here) (Action.bind_of_error there)

theorem Alike.guarded {p : Prop} [Decidable p] {e : Error} {after : β → Action (Browsing Namespace) α}
    (rest : ¬ p → Alike ns ms session act) :
    Alike ns ms session (if p then (throw e >>= after) else act) := by
  by_cases refused : p
  · rw [if_pos refused]
    exact .of_answer (.error e) rfl rfl
  · rw [if_neg refused]
    exact rest refused

end Sequences

section Requests

variable (twins : Twins ctx top ns ms) (known : session.security = some ctx)

theorem alike_absolute {path : String} {next : String → Action (Browsing Namespace) α}
    (rest : ∀ path, Alike ns ms session (next path)) : Alike ns ms session (absolute path >>= next) :=
  .after_answer (.ok (Path.absolute session.workingDir path)) rfl rfl fun path _ => rest path

section Checks
include known

theorem alike_context {next : SecurityContext → Action (Browsing Namespace) α}
    (rest : Alike ns ms session (next ctx)) : Alike ns ms session (context >>= next) := by
  refine .after_answer (.ok ctx) (context_eq_ok_iff.2 ⟨known, rfl⟩)
    (context_eq_ok_iff.2 ⟨known, rfl⟩) fun other same => ?_
  cases same
  exact rest

theorem alike_require {entry : Entry} {requested : Mode} {what : String}
    {next : Unit → Action (Browsing Namespace) α}
    (rest : entry.permits ctx requested = true → Alike ns ms session (next ())) :
    Alike ns ms session (require entry requested what >>= next) := by
  by_cases permitted : entry.permits ctx requested = true
  · refine .after_answer (.ok ()) (require_eq_ok_iff.2 ⟨⟨ctx, known, permitted⟩, rfl⟩)
      (require_eq_ok_iff.2 ⟨⟨ctx, known, permitted⟩, rfl⟩) fun _ _ => rest permitted
  · have refuses (store : Namespace) : require entry requested what ⟨session, store⟩ =
        Action.ofExcept (.error (.permissionDenied ("not enough permissions on " ++ what)))
          ⟨session, store⟩ := by
      refine (Action.bind_of_ok (context_eq_ok_iff.2 ⟨known, rfl⟩)).trans ?_
      rw [if_pos permitted]
      rfl
    exact .after_answer _ (refuses ns) (refuses ms) nofun

end Checks

include twins known

theorem alike_lookup {path : String} {next : Entry → Action (Browsing Namespace) α}
    (rest : ∀ entry, ns.Outside top entry.stat.ino entry → Alike ns ms session (next entry)) :
    Alike ns ms session (lookup (some Namespace.handler) path >>= next) :=
  .after_answer _ (lookup_apply shows_namespace path ⟨session, ns⟩ known)
    (twins.find_eq path ▸ lookup_apply shows_namespace path ⟨session, ms⟩ known)
    fun entry found => rest entry (twins.find_outside found)

theorem alike_entryAt {path : String} {next : Entry → Action (Browsing Namespace) α}
    (rest : ∀ entry, ns.Outside top entry.stat.ino entry → Alike ns ms session (next entry)) :
    Alike ns ms session (entryAt (some Namespace.handler) path >>= next) := by
  have found (store : Namespace) : entryAt (some Namespace.handler) path ⟨session, store⟩ =
      Action.ofExcept (store.find ctx (Path.absolute session.workingDir path)) ⟨session, store⟩ :=
    (Action.bind_of_ok rfl).trans (lookup_apply shows_namespace _ ⟨session, store⟩ known)
  exact .after_answer _ (found ns) (twins.find_eq _ ▸ found ms) fun entry there =>
    rest entry (twins.find_outside there)

/-- Looks and moves are answered alike. -/
theorem alike_handler {r : CatalogRequest} (browses : r.browses = true) :
    Alike ns ms session (handler (some Namespace.handler) r) := by
  cases r with
  | workingDir => exact .of_answer (.ok session.workingDir) rfl rfl
  | changeDir path =>
    refine alike_absolute fun path => alike_lookup twins known fun entry _ => .guarded fun _ => ?_
    exact alike_require known fun _ => ⟨.ok (), { session with workingDir := path }, rfl, rfl, rfl⟩
  | entry path =>
    rw [← bind_pure (handler _ _)]
    exact alike_entryAt twins known fun entry _ => alike_pure entry
  | stat path => exact alike_entryAt twins known fun entry _ => alike_pure entry.stat
  | access path requested =>
    refine alike_absolute fun path => alike_lookup twins known fun entry _ => ?_
    split
    · exact alike_pure true
    · exact alike_context known (alike_pure _)
  | replicas path =>
    refine alike_absolute fun path => alike_lookup twins known fun entry outside =>
      .guarded fun _ => alike_require known fun _ => ?_
    have shown (store : Namespace) := ask_query (shows_namespace.replicas entry.stat.ino) ⟨session, store⟩
    exact .of_answer _ (shown ns) (twins.replicasOf_eq outside ▸ shown ms)
  | readDir path =>
    refine alike_absolute fun path => alike_lookup twins known fun entry outside =>
      .guarded fun directory => alike_require known fun permitted => ?_
    have searchable : entry.permits ctx Mode.search = true := Permission.permits_less (by decide) permitted
    have same := twins.readDir_eq outside (Decidable.not_not.1 directory)
      (twins.beside_of_searchable outside searchable)
    have shown (store : Namespace) : ask (some Namespace.handler) (.readDir entry.stat.ino) ⟨session, store⟩ =
        Action.ofExcept (store.readDir entry.stat.ino) ⟨session, store⟩ :=
      ask_query (r := .readDir entry.stat.ino) (f := (Namespace.readDir · entry.stat.ino)) rfl _
    exact .of_answer _ (shown ns) (same ▸ shown ms)
  | umask | setMode | setOwner | setSize | setAcl | addReplica | deleteReplica | updateReplica | create
  | makeDir | unlink | removeDir => cases browses

end Requests

/-- The answers to some requests, one after another, each with what it answers. -/
def answers {ν : Type} (below : Below ν) :
    List CatalogRequest → Browsing ν → List ((r : CatalogRequest) × Except Error r.Answer)
  | [], _ => []
  | r :: rest, b =>
    ⟨r, ((handler below r).outcome b).1⟩ :: answers below rest ((handler below r).outcome b).2

/-- The sessions that a sequence of looks and moves goes through are the same over both namespaces. -/
theorem answers_eq_of_twins (twins : Twins ctx top ns ms) (known : session.security = some ctx)
    {requests : List CatalogRequest} (browse : ∀ r ∈ requests, r.browses = true) :
    answers (some Namespace.handler) requests ⟨session, ns⟩ =
      answers (some Namespace.handler) requests ⟨session, ms⟩ := by
  induction requests generalizing session with
  | nil => rfl
  | cons r rest ih =>
    obtain ⟨answer, after, same, here, there⟩ :=
      alike_handler twins known (browse r List.mem_cons_self)
    rw [answers, answers, here, there]
    exact congrArg (_ :: ·) (ih (same.trans known) fun r later => browse r (List.mem_cons_of_mem _ later))

/-- Whatever requests two namespaces come from: if they agree outside a directory that an identity may not
search, then they answer every sequence of its looks and moves alike, failures included. -/
theorem answers_eq_of_hidden (mine theirs : List InodeRequest) (top : Nat) (dir : Entry)
    (ctx : SecurityContext) (session : CatalogSession) (requests : List CatalogRequest)
    (there : (initial.run mine).entries.get? top = some dir)
    (refused : dir.permits ctx Mode.search = false)
    (agree : AgreeOutside top (initial.run mine) (initial.run theirs))
    (known : session.security = some ctx) (browse : ∀ r ∈ requests, r.browses = true) :
    answers (some Namespace.handler) requests ⟨session, initial.run mine⟩ =
      answers (some Namespace.handler) requests ⟨session, initial.run theirs⟩ := by
  have twins : Twins ctx top (initial.run mine) (initial.run theirs) :=
    ⟨tree_initial.run mine, tree_initial.run theirs, ordered_replicas_run rowsSound_initial.ordered mine,
      ordered_replicas_run rowsSound_initial.ordered theirs, agree, dir, there, refused⟩
  exact answers_eq_of_twins twins known browse

/-- A directory that only root may search. -/
def vault : List InodeRequest :=
  [.create { parent := 1, name := "vault", stat := { mode := Mode.directory ||| 0o700 } }]

/-- A file that is made in the directory. -/
def secret : Entry :=
  { parent := 2, name := "secret", stat := { mode := Mode.regular ||| 0o666 } }

/-- Ways to find out whether the file is there. -/
def probes : List CatalogRequest :=
  [.stat "/vault/secret", .readDir "/vault", .changeDir "/vault", .replicas "vault/secret"]

/-- Alice is told the same, whether the file is there or not. -/
theorem answers_eq_of_vault :
    ((initial.run vault).entries.get? 3).isSome = false ∧
      ((initial.run (vault ++ [.create secret])).entries.get? 3).isSome = true ∧
      answers (some Namespace.handler) probes
          ⟨{ security := some ReplicaRights.alice }, initial.run vault⟩ =
        answers (some Namespace.handler) probes
          ⟨{ security := some ReplicaRights.alice }, initial.run (vault ++ [.create secret])⟩ := by
  obtain ⟨created, next, made⟩ : ∃ created next, (initial.run vault).create secret = .ok (created, next) :=
    ⟨_, _, rfl⟩
  have reached : initial.run (vault ++ [.create secret]) = next := by
    rw [run_append]
    exact after_of_create made
  have agree : AgreeOutside 2 (initial.run vault) (initial.run (vault ++ [.create secret])) :=
    reached ▸ agreeOutside_of_create (tree_initial.run vault) made
  obtain ⟨dir, there⟩ : ∃ dir, (initial.run vault).entries.get? 2 = some dir := ⟨_, rfl⟩
  have refused : ((initial.run vault).entries.get? 2).map
      (fun dir => dir.permits ReplicaRights.alice Mode.search) = some false := by
    decide +kernel
  rw [there] at refused
  exact ⟨rfl, rfl, answers_eq_of_hidden vault (vault ++ [.create secret]) 2 dir ReplicaRights.alice
    { security := some ReplicaRights.alice } probes there (Option.some.inj refused) agree rfl (by decide)⟩

end BuiltIn
end Stowage
