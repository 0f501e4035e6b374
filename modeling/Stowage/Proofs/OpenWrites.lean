import Stowage.Proofs.CancelledData
import Stowage.Proofs.Places
import Stowage.Proofs.Reports

/-! Several writes of one file. Nothing records which stack made the entry of a file, or which writes are
open: a write that is given up takes the entry exactly if no replica is registered at that time. Another
stack's report goes through as before, unless the entry of its own file was taken; then the file is
missed. -/
namespace Stowage

namespace Namespace

variable {ns next : Namespace} {names : List String}

/-- A file is taken from its path, with its name and its replicas. -/
def Without (ns next : Namespace) (names : List String) : Prop :=
  ∃ entry, ns.at? names = some entry ∧ entry.stat.isDirectory = false ∧
    ns.unlink entry.stat.ino = .ok next

theorem Without.there (without : ns.Without next names) : ns.at? names ≠ none := by
  obtain ⟨entry, there, -⟩ := without
  simp [there]

theorem Without.gone (without : ns.Without next names) (keyed : ns.EntriesKeyed) :
    next.at? names = none := by
  obtain ⟨entry, there, -, made⟩ := without
  exact keyed.at?_unlinked there made

/-- A namespace that has a file is not the initial one. -/
theorem Without.ne_initial (without : ns.Without next names) : ns ≠ .initial := by
  rintro rfl
  obtain ⟨entry, there, file, made⟩ := without
  have stored := entriesKeyed_initial.stored there
  have listed := Table.mem_of_get? (entry_eq_ok_iff.1 stored)
  obtain ⟨-, rfl⟩ := Prod.mk.inj (List.mem_singleton.1 listed)
  cases file

end Namespace

/-- The namespaces of a site are those of its manager. -/
theorem Site.namespace_of_manager {a b : Site} {id : FactoryId} (same : a.manager = b.manager) :
    a.namespace_ id = b.namespace_ id := by
  unfold namespace_
  rw [same]

namespace OnSite

variable {s t : OnSite} {outer inner : List Decorator} {id : FactoryId} {session : CatalogSession}
  {names : List String}

/-- Stack and manager are as they were; files may differ, and time. -/
structure SameDesk (s t : OnSite) : Prop where
  stack : t.stack = s.stack
  manager : t.site.manager = s.site.manager

theorem SameDesk.pool (same : SameDesk s t) (name : String) : t.pool name = s.pool name := by
  unfold OnSite.pool
  rw [same.stack, same.manager]

theorem SameDesk.driverFor (same : SameDesk s t) (type : String) :
    t.driverFor type = s.driverFor type := by
  unfold OnSite.driverFor
  rw [same.stack, same.manager]

/-- A librarian of the stack hides all replicas of the file at the names, though it has some. -/
def Conceals (s : OnSite) (id : FactoryId) (names : List String) : Prop :=
  ∃ outer inner session, s.Wired outer inner id session ∧ (s.site.namespace_ id).rowsAt names ≠ [] ∧
    s.stack.excluded.Hide outer ((s.site.namespace_ id).rowsAt names)

theorem Wired.shows_iff (wired : s.Wired outer inner id session) (open_ : ¬ s.Conceals id names) :
    s.stack.excluded.through outer ((s.site.namespace_ id).rowsAt names) = [] ↔
      (s.site.namespace_ id).rowsAt names = [] := by
  constructor
  · intro hidden
    by_contra some_
    exact open_ ⟨outer, inner, session, wired, some_, (Exclusions.through_eq_nil_iff some_).1 hidden⟩
  · intro none_
    rw [none_]
    exact List.sublist_nil.1 (Exclusions.through_sublist _ _ _)

end OnSite

namespace Location

/-- The logical name that a location was marked with last. -/
theorem named_of_tag {location : Location} {chunk : Chunk} {word : String}
    (first : (location.tag Chunk.nameKey (.str word)).first = .ok chunk) :
    chunk.attrs.str Chunk.nameKey "" = .ok word := by
  obtain ⟨chunks⟩ := location
  cases chunks with
  | nil => cases first
  | cons head rest =>
    cases first
    exact Chunk.str_tag head Chunk.nameKey word ""

end Location

namespace Resolution

open OnSite StackM

variable {s t u : OnSite} {outer inner : List Decorator} {id : FactoryId} {session : CatalogSession}
  {location : Location} {chunk : Chunk} {name : String} {size : Nat} {ns next : Namespace}

/-- The catalog shows the replicas of a file alone. -/
theorem file_of_dropped (browses : u.BrowsesThrough outer session ns) (given : name ≠ "")
    (dropped : dropEntry name u = .ok () t) :
    ∃ entry, ns.at? (session.names name) = some entry ∧ entry.stat.isDirectory = false := by
  unfold dropEntry at dropped
  rw [if_pos given] at dropped
  obtain ⟨rows, v, shown, -⟩ := Action.bind_eq_ok_iff.1 dropped
  obtain ⟨⟨ctx, entry, all, -, reaches, file, -⟩, -⟩ := (replicas_eq_ok_iff browses).1 shown
  exact ⟨entry, Namespace.at?_of_reaches reaches, file⟩

/-- A write that is given up takes the entry of its file if it succeeds and the catalog shows no replica.
Otherwise it leaves the tables alone. -/
theorem cancelled_cases (wired : s.Wired outer inner id session) (first : location.first = .ok chunk)
    (named : chunk.attrs.str Chunk.nameKey "" = .ok name) (given : name ≠ "") :
    let rows := s.stack.excluded.through outer ((s.site.namespace_ id).rowsAt (session.names name))
    let after := ((cancelWrite location).outcome s).2
    (after.site.manager = s.site.manager ∧ ((∃ t, cancelWrite location s = .ok () t) → rows ≠ [])) ∨
      ((∃ t, cancelWrite location s = .ok () t) ∧ rows = [] ∧
        ∃ next, (s.site.namespace_ id).Without next (session.names name) ∧
          after.site.manager = (s.putNamespace id next).site.manager) := by
  intro rows after
  cases run : cancelWrite location s with
  | error e t =>
    have view := sameView_of_refused first named run
    have left : after = t := congrArg Prod.snd (Action.outcome_of_error run)
    refine .inl ⟨left ▸ view.manager, ?_⟩
    rintro ⟨_, done⟩
    cases done
  | ok _ t =>
    have left : after = t := congrArg Prod.snd (Action.outcome_of_ok run)
    obtain ⟨u, view, dropped⟩ := dropped_of_cancelled first named run
    have browses := view.browsesThrough wired.browses
    have there : u.Wired outer inner id session := view.catalog.trans wired
    rcases dropEntry_eq_ok browses dropped with ⟨-, none_, unlinked⟩ | ⟨kept, rfl⟩
    · obtain ⟨entry, next, found, made, rfl⟩ := there.unlink_eq_ok unlinked
      obtain ⟨other, stands, file⟩ := file_of_dropped browses given dropped
      have same : u.site.namespace_ id = s.site.namespace_ id := view.sameTables.namespace_ id
      rw [same] at found made
      obtain rfl := Option.some.inj (found.symm.trans stands)
      rw [view.excluded] at none_
      refine .inr ⟨⟨_, rfl⟩, none_, next, ⟨entry, found, file, made⟩, ?_⟩
      rw [left]
      unfold putNamespace Site.putNamespace
      rw [view.manager]
    · refine .inl ⟨left ▸ view.manager, fun _ => ?_⟩
      rcases kept with empty | some_
      · exact absurd empty given
      · rw [view.excluded] at some_
        exact some_

namespace Registration

variable (r : Registration s location)

/-- A stack that shares a namespace registers its writes there. -/
theorem id_eq (wired : s.Wired outer inner id session) : r.id = id := by
  have same := Option.some.inj (r.wired.symm.trans wired)
  injection same with _ base
  injection base with below
  injection Option.some.inj below with _ node
  injection node

section Afterwards

variable (desk : (s.putNamespace r.id next).SameDesk t)
include desk

theorem tells_after : Tells t location r.chunk r.pool r.name := by
  obtain ⟨first, ⟨word, pooled, word_, known⟩, named, given⟩ := r.tells
  refine ⟨first, ⟨word, pooled, word_, ?_⟩, named, given⟩
  rw [desk.pool, pool_putNamespace, known]

variable (held : t.site.namespace_ r.id = next)
include held

/-- A write that could be reported can be reported with another namespace, if its file is there and has
no replica of that name. -/
theorem done_after (chargeable : Chargeable s r.pool r.record size)
    (keyed : ∀ id, (t.site.namespace_ id).EntriesKeyed)
    (reaches : next.Reaches r.ctx (r.session.names r.name) r.entry)
    (fresh : ∀ row ∈ next.replicas.values, row.file = r.entry.stat.ino →
      row.rfn ≠ r.chunk.host ++ ":" ++ r.chunk.path) :
    ∃ u, doneWriting location size t = .ok () u := by
  have wired : t.Wired r.outer r.inner r.id r.session :=
    (congrArg Stack.catalog desk.stack).trans r.wired
  let moved : Registration t location :=
    { r with
      tells := r.tells_after desk
      wired
      reaches := held.symm ▸ reaches
      fresh := held.symm ▸ fresh }
  refine (doneWriting_succeeds_iff keyed).2 ⟨moved, ?_⟩
  obtain ⟨node, updated, known, served, counted, there⟩ := chargeable
  refine ⟨node, updated, known, ?_, counted, ?_⟩
  · rw [desk.driverFor, driverFor_putNamespace]
    exact served
  · rw [desk.pool, pool_putNamespace, there]

/-- A write cannot be reported with a namespace in which its file is missed. -/
theorem missed_after
    (fewer : ∀ {parent : Nat} {name : String} {below : Entry}, next.child parent name = .ok below →
      (s.site.namespace_ r.id).child parent name = .ok below)
    (gone : next.at? (r.session.names r.name) = none) (size : Nat) :
    ∃ e, doneWriting location size t = .error e t ∧ e.kind = .fileNotFound := by
  have browses : t.BrowsesThrough r.outer r.session next :=
    ⟨r.inner, r.id, (congrArg Stack.catalog desk.stack).trans r.wired, held⟩
  obtain ⟨e, missed, kind⟩ := Namespace.find_of_vanished fewer r.reaches gone
  refine ⟨e, doneWriting_of_missed (r.tells_after desk) ?_ size, kind⟩
  rw [entry_apply browses r.known, missed]
  rfl

end Afterwards

end Registration

end Resolution

namespace Office

variable {o : Office} {i : Nat} {location : Location} {size : Nat}

/-- The catalogs of all stacks are built-in ones over one namespace in memory. -/
def Shares (o : Office) (id : FactoryId) : Prop :=
  ∀ i, ∃ outer inner session, (o.at_ i).Wired outer inner id session

/-- A stack that gives up the write takes what stands at the names. -/
def Drops (o : Office) (i : Nat) (location : Location) (id : FactoryId) (names : List String) : Prop :=
  (o.site.namespace_ id).at? names ≠ none ∧
    ((o.after i (.cancel location)).site.namespace_ id).at? names = none

/-- What is hidden is there. -/
theorem registered_of_conceals {id : FactoryId} {names : List String}
    (conceals : (o.at_ i).Conceals id names) : (o.site.namespace_ id).rowsAt names ≠ [] := by
  obtain ⟨_, _, _, -, some_, -⟩ := conceals
  exact some_

theorem none_of_map {r : Except Error Unit} {answer : Option Location}
    (done : (r.map fun _ => none) = .ok answer) : answer = none := by
  cases r with
  | error e => cases done
  | ok _ =>
    cases done
    rfl

theorem done_succeeds_iff : o.outcome i (.done location size) = .ok none ↔
    ∃ t, Resolution.doneWriting location size (o.at_ i) = .ok () t := by
  rw [outcome_done]
  unfold Action.outcome
  cases Resolution.doneWriting location size (o.at_ i) <;> simp [Except.map]

theorem cancel_succeeds_iff : o.outcome i (.cancel location) = .ok none ↔
    ∃ t, Resolution.cancelWrite location (o.at_ i) = .ok () t := by
  rw [outcome_cancel]
  unfold Action.outcome
  cases Resolution.cancelWrite location (o.at_ i) <;> simp [Except.map]

theorem done_of_toBool (succeeds : (o.outcome i (.done location size)).toBool = true) :
    o.outcome i (.done location size) = .ok none := by
  rw [outcome_done] at succeeds ⊢
  obtain ⟨answer, done⟩ := Resolution.exists_of_toBool succeeds
  rw [done, none_of_map done]

theorem cancel_of_toBool (succeeds : (o.outcome i (.cancel location)).toBool = true) :
    o.outcome i (.cancel location) = .ok none := by
  rw [outcome_cancel] at succeeds ⊢
  obtain ⟨answer, done⟩ := Resolution.exists_of_toBool succeeds
  rw [done, none_of_map done]

/-- A move is nothing to the other stacks. -/
theorem workers_after {j : Nat} (other : j ≠ i) (o : Office) (m : Move) :
    (o.after i m).workers j = o.workers j := by
  unfold after put
  simp [other]

end Office

namespace Runs

variable {start office : Office} {deeds : List Deed} {id : FactoryId} {names : List String}
  {location : Location}

/-- A stack was given the location for the file at the names of a shared namespace. -/
def IssuedAt (start : Office) (deeds : List Deed) (id : FactoryId) (names : List String)
    (location : Location) : Prop :=
  ∃ i path outer inner session, (start.at_ i).Wired outer inner id session ∧
    ⟨i, .write path, .ok (some location)⟩ ∈ deeds ∧ session.names path = names

/-- A location that was issued tells the name that it was issued for, which all stacks see alike. -/
theorem named_of_issued (run : Runs start deeds office) (issued : IssuedAt start deeds id names location)
    {chunk : Chunk} (first : location.first = .ok chunk) :
    ∃ word, chunk.attrs.str Chunk.nameKey "" = .ok word ∧ word ≠ "" ∧
      ∀ session : CatalogSession, session.names word = names := by
  obtain ⟨i, path, outer, inner, session, wired, wrote, rfl⟩ := issued
  obtain ⟨_, o, t, earlier, located⟩ := run.located_by wrote
  have there : (o.at_ i).Wired outer inner id session := (earlier.sameChains i).catalog.trans wired
  obtain ⟨target, _, _, _, _, offered, _, seen, -, -, -, -, -, -, -, rfl⟩ :=
    Resolution.whereToWrite_eq_ok located
  rw [OnSite.absolute_apply there.browses] at seen
  cases seen
  refine ⟨_, Location.named_of_tag first, Path.absolute_ne_empty _ _, fun other => ?_⟩
  unfold CatalogSession.names
  rw [Path.absolute_absolute]

theorem components_of_issued (issued : IssuedAt start deeds id names location) :
    ∀ part ∈ names, Path.IsComponent part := by
  obtain ⟨_, _, _, _, _, -, -, rfl⟩ := issued
  exact fun part member => Path.isComponent_of_mem_split member

theorem wired (run : Runs start deeds office) (shares : start.Shares id) (i : Nat) :
    ∃ outer inner session, (office.at_ i).Wired outer inner id session := by
  obtain ⟨outer, inner, session, wired⟩ := shares i
  exact ⟨outer, inner, session, (run.sameChains i).catalog.trans wired⟩

/-- A write that is given up either leaves the manager alone, or else it succeeds and takes the file,
of which no replica is registered. -/
theorem cancelled_cases (run : Runs start deeds office) (shares : start.Shares id)
    (issued : IssuedAt start deeds id names location) (i : Nat)
    (open_ : ¬ (office.at_ i).Conceals id names) :
    ((office.after i (.cancel location)).site.manager = office.site.manager ∧
        (office.outcome i (.cancel location) = .ok none →
          (office.site.namespace_ id).rowsAt names ≠ [])) ∨
      (office.outcome i (.cancel location) = .ok none ∧
        (office.site.namespace_ id).rowsAt names = [] ∧
        ∃ next, (office.site.namespace_ id).Without next names ∧
          (office.after i (.cancel location)).site.manager =
            (office.site.putNamespace id next).manager) := by
  rw [office.site_cancel, Office.cancel_succeeds_iff]
  cases first : location.first with
  | error e =>
    have failed : Resolution.cancelWrite location (office.at_ i) = .error e (office.at_ i) := by
      apply Action.bind_of_error
      rw [first]
      rfl
    rw [Action.outcome_of_error failed]
    refine .inl ⟨rfl, ?_⟩
    rintro ⟨t, done⟩
    cases failed.symm.trans done
  | ok chunk =>
    obtain ⟨word, named, given, same⟩ := run.named_of_issued issued first
    obtain ⟨outer, inner, session, wired⟩ := run.wired shares i
    have shown := wired.shows_iff open_
    rcases Resolution.cancelled_cases wired first named given with
      ⟨untouched, kept⟩ | ⟨done, none_, next, without, taken⟩
    · rw [same session] at kept
      exact .inl ⟨untouched, fun done empty => kept done (shown.2 empty)⟩
    · rw [same session] at none_ without
      exact .inr ⟨done, shown.1 none_, next, without, taken⟩

section Order

variable (run : Runs start deeds office) (reachable : ∀ n, (start.site.namespace_ n).Reachable)
include run reachable

theorem keyed (n : FactoryId) : (office.site.namespace_ n).EntriesKeyed :=
  run.namespace_ (fun _ r keyed => keyed.after r) (reachable n).entriesKeyed

theorem names_borne (n : FactoryId) : (office.site.namespace_ n).Named := by
  have step : ∀ (ns : Namespace) (r : InodeRequest), ns.Numbered ∧ ns.Named →
      (ns.after r).Numbered ∧ (ns.after r).Named :=
    fun _ r held => ⟨held.1.after r, held.2.after held.1 r⟩
  exact (run.namespace_ step ⟨(reachable n).numbered, (reachable n).named⟩).2

variable {i j : Nat} (rival : j ≠ i) {others : List String} {other : Location} {size : Nat}
  (ready : office.outcome j (.done other size) = .ok none)
include rival ready

/-- The report of another stack goes through after a move that leaves the manager alone. -/
theorem reported_of_untouched {m : Move}
    (untouched : (office.after i m).site.manager = office.site.manager) :
    (office.after i m).outcome j (.done other size) = .ok none := by
  obtain ⟨r, chargeable⟩ := (Resolution.doneWriting_succeeds_iff (run.keyed reachable)).1
    (Office.done_succeeds_iff.1 ready)
  have same : (office.at_ j).putNamespace r.id ((office.at_ j).site.namespace_ r.id) =
      office.at_ j := by
    unfold OnSite.putNamespace
    rw [Site.putNamespace_same]
  have desk : ((office.at_ j).putNamespace r.id ((office.at_ j).site.namespace_ r.id)).SameDesk
      ((office.after i m).at_ j) := by
    rw [same]
    exact ⟨office.workers_after rival m, untouched⟩
  have held : ((office.after i m).at_ j).site.namespace_ r.id =
      (office.at_ j).site.namespace_ r.id :=
    Site.namespace_of_manager untouched
  exact Office.done_succeeds_iff.2
    (r.done_after desk held chargeable ((run.move i m).keyed reachable) r.reaches r.fresh)

variable (shares : start.Shares id) (pending : IssuedAt start deeds id others other)
include shares pending

/-- After a file was taken, another stack's report fails if it is of that file, for want of it, and goes
through otherwise. -/
theorem reported_of_taken {m : Move} {next : Namespace}
    (components : ∀ part ∈ names, Path.IsComponent part)
    (without : (office.site.namespace_ id).Without next names)
    (taken : (office.after i m).site.manager = (office.site.putNamespace id next).manager) :
    (others = names → ∃ e, (office.after i m).outcome j (.done other size) = .error e ∧
        e.kind = .fileNotFound) ∧
      (others ≠ names → (office.after i m).outcome j (.done other size) = .ok none) := by
  obtain ⟨r, chargeable⟩ := (Resolution.doneWriting_succeeds_iff (run.keyed reachable)).1
    (Office.done_succeeds_iff.1 ready)
  obtain ⟨outer, inner, session, wired⟩ := run.wired shares j
  obtain rfl := r.id_eq wired
  have desk : ((office.at_ j).putNamespace r.id next).SameDesk ((office.after i m).at_ j) :=
    ⟨office.workers_after rival m, taken⟩
  have held : ((office.after i m).at_ j).site.namespace_ r.id = next := by
    have stored : (office.site.putNamespace r.id next).namespace_ r.id = next :=
      Site.namespace_putNamespace_of_ne_initial without.ne_initial
    rw [← stored]
    exact Site.namespace_of_manager taken
  have path : r.session.names r.name = others := by
    obtain ⟨word, named, -, same⟩ := run.named_of_issued pending r.tells.first
    obtain rfl := Except.ok.inj (named.symm.trans r.tells.named)
    exact same r.session
  have order := run.keyed reachable r.id
  have borne := run.names_borne reachable r.id
  obtain ⟨entry, there, file, made⟩ := without
  constructor
  · rintro rfl
    have gone : next.at? (r.session.names r.name) = none := by
      rw [path]
      exact order.at?_unlinked there made
    obtain ⟨e, missed, kind⟩ :=
      r.missed_after desk held (Namespace.child_of_unlink made) gone size
    refine ⟨e, ?_, kind⟩
    rw [Office.outcome_done, Action.outcome_of_error missed]
    rfl
  · intro apart
    have stands := Namespace.at?_of_reaches r.reaches
    have number : r.entry.stat.ino ≠ entry.stat.ino := by
      intro same
      have stored := order.stored there
      rw [← same, order.stored stands] at stored
      obtain rfl := Except.ok.inj stored
      rw [path] at stands
      exact apart (Namespace.at?_injective order borne stands there
        (components_of_issued pending) components)
    have reaches := Namespace.reaches_of_unlinked order borne there file made r.reaches number
    refine Office.done_succeeds_iff.2 (r.done_after desk held chargeable
      ((run.move i m).keyed reachable) reaches fun row member => r.fresh row ?_)
    obtain ⟨_, -, rfl⟩ := Namespace.unlink_eq_ok made
    exact (List.filter_sublist.map Prod.snd).subset member

end Order

/-- Two stacks are given locations for one file, which the first of them made. -/
def vying : Office :=
  (pair.after 0 (.write "/f")).after 1 (.write "/f")

/-- What the two stacks have done. -/
def rivals : List Deed :=
  [⟨1, .write "/f", (pair.after 0 (.write "/f")).outcome 1 (.write "/f")⟩,
    ⟨0, .write "/f", pair.outcome 0 (.write "/f")⟩]

theorem runs_vying : Runs pair rivals vying :=
  (Runs.start.move 0 _).move 1 _

theorem issued_vying : IssuedAt pair rivals 1 ["f"] (given pair 0 "/f") ∧
    IssuedAt pair rivals 1 ["f"] (given (pair.after 0 (.write "/f")) 1 "/f") := by
  have names : CatalogSession.names { security := some .root } "/f" = ["f"] := by decide +kernel
  have first : pair.outcome 0 (.write "/f") = .ok (some (given pair 0 "/f")) :=
    outcome_of_given (by decide +kernel)
  have second : (pair.after 0 (.write "/f")).outcome 1 (.write "/f") =
      .ok (some (given (pair.after 0 (.write "/f")) 1 "/f")) :=
    outcome_of_given (by decide +kernel)
  constructor
  · refine ⟨0, "/f", [], [], _, rfl, ?_, names⟩
    rw [← first]
    exact List.mem_cons_of_mem _ List.mem_cons_self
  · refine ⟨1, "/f", [], [], _, rfl, ?_, names⟩
    rw [← second]
    exact List.mem_cons_self

/-- The second stack gives its write up. The file was there before that stack was given its location, the
write of the first stack is open and could be reported; yet the entry goes, and the report of the first
stack misses the file. -/
theorem open_write_lost_by_cancelling :
    Runs pair rivals vying ∧ IssuedAt pair rivals 1 ["f"] (given pair 0 "/f") ∧
      IssuedAt pair rivals 1 ["f"] (given (pair.after 0 (.write "/f")) 1 "/f") ∧
      ((pair.after 0 (.write "/f")).site.namespace_ 1).at? ["f"] ≠ none ∧
      vying.outcome 0 (.done (given pair 0 "/f") 4) = .ok none ∧
      vying.Drops 1 (given (pair.after 0 (.write "/f")) 1 "/f") 1 ["f"] ∧
      ∃ e, (vying.after 1 (.cancel (given (pair.after 0 (.write "/f")) 1 "/f"))).outcome 0
          (.done (given pair 0 "/f") 4) = .error e ∧ e.kind = .fileNotFound := by
  have made : (((pair.after 0 (.write "/f")).site.namespace_ 1).at? ["f"]).isSome = true := by
    decide +kernel
  have stands : ((vying.site.namespace_ 1).at? ["f"]).isSome = true := by decide +kernel
  have gone : ((((vying.after 1 (.cancel (given (pair.after 0 (.write "/f")) 1 "/f"))).site.namespace_
      1).at? ["f"]).isNone) = true := by
    decide +kernel
  have ready : (vying.outcome 0 (.done (given pair 0 "/f") 4)).toBool = true := by decide +kernel
  have missed : (match (vying.after 1 (.cancel (given (pair.after 0 (.write "/f")) 1 "/f"))).outcome 0
      (.done (given pair 0 "/f") 4) with
      | .ok _ => none
      | .error e => some e.kind) = some .fileNotFound := by
    decide +kernel
  refine ⟨runs_vying, issued_vying.1, issued_vying.2, Option.isSome_iff_ne_none.1 made,
    Office.done_of_toBool ready, ⟨Option.isSome_iff_ne_none.1 stands, Option.isNone_iff_eq_none.1 gone⟩, ?_⟩
  split at missed
  · cases missed
  · rename_i e failed
    exact ⟨e, failed, Option.some.inj missed⟩

/-- A stack that gives up a write takes the entry of the file exactly if it succeeds and no replica of the
file is registered, whoever made the entry and whatever writes are open. The times of entries aside, it
takes nothing else. Another stack's write can be reported afterwards as before, unless the entry of its own
file was taken: then its report misses the file. -/
theorem drops_iff_of_cancelled (run : Runs start deeds office) (shares : start.Shares id)
    (reachable : ∀ n, (start.site.namespace_ n).Reachable)
    (issued : IssuedAt start deeds id names location) (i : Nat)
    (open_ : ¬ (office.at_ i).Conceals id names) :
    (office.Drops i location id names ↔
        office.outcome i (.cancel location) = .ok none ∧
          (office.site.namespace_ id).rowsAt names = []) ∧
      (¬ office.Drops i location id names →
        (office.after i (.cancel location)).site.manager = office.site.manager) ∧
      (office.Drops i location id names →
        ∃ next, (office.site.namespace_ id).Without next names ∧
          (office.after i (.cancel location)).site.manager =
            (office.site.putNamespace id next).manager) ∧
      ∀ j, j ≠ i → ∀ others other size, IssuedAt start deeds id others other →
        office.outcome j (.done other size) = .ok none →
          (office.Drops i location id names ∧ others = names →
            ∃ e, (office.after i (.cancel location)).outcome j (.done other size) = .error e ∧
              e.kind = .fileNotFound) ∧
          (¬ (office.Drops i location id names ∧ others = names) →
            (office.after i (.cancel location)).outcome j (.done other size) = .ok none) := by
  rcases run.cancelled_cases shares issued i open_ with
    ⟨untouched, kept⟩ | ⟨done, none_, next, without, taken⟩
  · have stays : ¬ office.Drops i location id names := by
      rintro ⟨there, gone⟩
      have same : (office.after i (.cancel location)).site.namespace_ id =
          office.site.namespace_ id :=
        Site.namespace_of_manager untouched
      rw [same] at gone
      exact there gone
    refine ⟨⟨fun drops => absurd drops stays, fun both => absurd both.2 (kept both.1)⟩,
      fun _ => untouched, fun drops => absurd drops stays, ?_⟩
    intro j rival others other size pending ready
    refine ⟨fun both => absurd both.1 stays, fun _ => ?_⟩
    exact run.reported_of_untouched reachable rival ready untouched
  · have drops : office.Drops i location id names := by
      refine ⟨without.there, ?_⟩
      have stored : (office.site.putNamespace id next).namespace_ id = next :=
        Site.namespace_putNamespace_of_ne_initial without.ne_initial
      have held : (office.after i (.cancel location)).site.namespace_ id = next := by
        rw [← stored]
        exact Site.namespace_of_manager taken
      rw [held]
      exact without.gone (run.keyed reachable id)
    refine ⟨⟨fun _ => ⟨done, none_⟩, fun _ => drops⟩, fun stays => absurd drops stays,
      fun _ => ⟨next, without, taken⟩, ?_⟩
    intro j rival others other size pending ready
    obtain ⟨missed, reported⟩ := run.reported_of_taken reachable rival ready shares pending
      (components_of_issued issued) without taken
    exact ⟨fun both => missed both.2, fun other => reported fun same => other ⟨drops, same⟩⟩

/-- No replica of the contended file is registered, and so the one stack takes it and the other misses it. -/
theorem contended_file_missed :
    pair.Shares 1 ∧ (∀ n, (pair.site.namespace_ n).Reachable) ∧ ¬ (vying.at_ 1).Conceals 1 ["f"] ∧
      vying.Drops 1 (given (pair.after 0 (.write "/f")) 1 "/f") 1 ["f"] ∧
      ∃ e, (vying.after 1 (.cancel (given (pair.after 0 (.write "/f")) 1 "/f"))).outcome 0
          (.done (given pair 0 "/f") 4) = .error e ∧ e.kind = .fileNotFound := by
  have shares : pair.Shares 1 := fun _ => ⟨[], [], _, rfl⟩
  have reachable : ∀ n, (pair.site.namespace_ n).Reachable := by
    intro n
    have reached : Namespace.initial.Reachable := .initial
    exact OnSite.reachable_desk .root _ _ reached n
  have rows : ((vying.site.namespace_ 1).rowsAt ["f"]).isEmpty = true := by decide +kernel
  have none_ : (vying.site.namespace_ 1).rowsAt ["f"] = [] := List.isEmpty_iff.1 rows
  have open_ : ¬ (vying.at_ 1).Conceals 1 ["f"] :=
    fun conceals => Office.registered_of_conceals conceals none_
  have cancelled : vying.outcome 1 (.cancel (given (pair.after 0 (.write "/f")) 1 "/f")) =
      .ok none :=
    Office.cancel_of_toBool (by decide +kernel)
  have ready : vying.outcome 0 (.done (given pair 0 "/f") 4) = .ok none :=
    Office.done_of_toBool (by decide +kernel)
  obtain ⟨exactly, -, -, others⟩ :=
    drops_iff_of_cancelled runs_vying shares reachable issued_vying.2 1 open_
  have drops := exactly.2 ⟨cancelled, none_⟩
  obtain ⟨missed, -⟩ := others 0 (by decide) ["f"] (given pair 0 "/f") 4 issued_vying.1 ready
  exact ⟨shares, reachable, open_, drops, missed ⟨drops, rfl⟩⟩

end Runs

end Stowage
