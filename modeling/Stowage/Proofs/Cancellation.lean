import Stowage.Proofs.CleanFailures
import Stowage.Proofs.Unlinking

/-! What giving up a write takes away. The entry of the file goes if the catalog shows no replica of it,
and what the catalog shows is less than what there is where a librarian hides replicas. An entry with
replicas is therefore lost exactly if a librarian is in the chain and the operation has excluded them
all. -/
namespace Stowage

namespace Exclusions

variable {x : Exclusions} {outer : List Decorator} {rows : List Replica}

/-- Some replica is there and none is shown: a librarian hides them all. -/
def Hide (x : Exclusions) (outer : List Decorator) (rows : List Replica) : Prop :=
  .librarian true ∈ outer ∧ ∀ row ∈ rows, x.contains row.id = true

theorem through_eq_nil_iff (some_ : rows ≠ []) : x.through outer rows = [] ↔ x.Hide outer rows := by
  rw [List.eq_nil_iff_forall_not_mem]
  simp only [mem_through_iff, not_and, Bool.not_eq_false, Classical.not_imp]
  obtain ⟨first, more, rfl⟩ := List.exists_cons_of_ne_nil some_
  constructor
  · intro hidden
    exact ⟨(hidden first List.mem_cons_self).1, fun row member => (hidden row member).2⟩
  · rintro ⟨librarian, all⟩ row member
    exact ⟨librarian, all row member⟩

end Exclusions

namespace OnSite

/-- Catalog, exclusions and tables are as they were; files and drivers may differ. -/
structure SameView (s t : OnSite) : Prop where
  catalog : t.stack.catalog = s.stack.catalog
  excluded : t.stack.excluded = s.stack.excluded
  manager : t.site.manager = s.site.manager

instance : Action.Frame SameView where
  refl _ := ⟨rfl, rfl, rfl⟩
  trans first second :=
    ⟨second.catalog.trans first.catalog, second.excluded.trans first.excluded,
      second.manager.trans first.manager⟩

theorem SameView.browsesThrough {s t : OnSite} (same : SameView s t) {outer : List Decorator}
    {session : CatalogSession} {ns : Namespace} (browses : s.BrowsesThrough outer session ns) :
    t.BrowsesThrough outer session ns := by
  obtain ⟨inner, id, wired, shown⟩ := browses
  refine ⟨inner, id, same.catalog.trans wired, ?_⟩
  unfold Site.namespace_ at shown ⊢
  rw [same.manager, shown]

end OnSite

namespace StackM

open OnSite

theorem sameView_driver (type : String) : Action.Keeps SameView (driver type) := by
  intro s
  cases run : driver type s with
  | error e t =>
    rw [Action.outcome_of_error run, (driver_eq_error run).2]
    exact Action.Frame.refl s
  | ok node t =>
    rw [Action.outcome_of_ok run]
    obtain ⟨-, site, catalog⟩ := driver_eq_ok run
    exact ⟨catalog, ((keeps_driver type).of_ok run).excluded, congrArg Site.manager site⟩

/-- A driver works on files, and leaves the tables alone. -/
theorem sameView_askDriver (node : DriverNode) (r : DriverRequest) :
    Action.Keeps SameView (askDriver node r) := by
  intro s
  rw [state_askDriver]
  exact ⟨rfl, rfl, rfl⟩

end StackM

namespace Resolution

open OnSite

variable {s t u : OnSite} {outer : List Decorator} {session : CatalogSession} {ns : Namespace}
  {location : Location} {chunk : Chunk} {name : String}

/-- What the driver of the pool does about a write that is given up. -/
def giveBack (poolName : String) (location : Location) : StackM Unit := do
  let pool ← StackM.pools (.get poolName)
  let driver ← StackM.driver pool.type
  StackM.askDriver driver (.cancelWrite pool location)

/-- What becomes of the entry once the driver is done. -/
def dropEntry (name : String) : StackM Unit := do
  if name ≠ "" then
    let replicas ← StackM.catalog (.replicas name)
    if replicas.isEmpty then StackM.catalog (.unlink name)

theorem sameView_giveBack (poolName : String) (location : Location) :
    Action.Keeps SameView (giveBack poolName location) :=
  (StackM.reads_pools_get poolName).keeps.bind fun pool =>
    (StackM.sameView_driver pool.type).bind fun driver => StackM.sameView_askDriver driver _

/-- An attribute that can be read is read. -/
theorem read_of_ok {α : Type} {value : Except Error α} {a : α} (read : value = .ok a) (s : OnSite) :
    (monadLift value : StackM α) s = .ok a s := by
  rw [read]
  rfl

/-- A write whose location tells pool and file is given back to its pool, and its entry is dropped. -/
theorem cancelWrite_eq {poolName : String} (first : location.first = .ok chunk)
    (pooled : chunk.attrs.str Chunk.poolKey "" = .ok poolName)
    (named : chunk.attrs.str Chunk.nameKey "" = .ok name) (s : OnSite) :
    cancelWrite location s = (do giveBack poolName location; dropEntry name : StackM Unit) s := by
  have begins : cancelWrite location s = (do
      let pool ← StackM.pools (.get poolName)
      let driver ← StackM.driver pool.type
      StackM.askDriver driver (.cancelWrite pool location)
      dropEntry name : StackM Unit) s :=
    (Action.bind_of_ok (read_of_ok first s)).trans
      ((Action.bind_of_ok (read_of_ok pooled s)).trans (Action.bind_of_ok (read_of_ok named s)))
  rw [begins]
  unfold giveBack
  simp only [bind_assoc]

/-- Giving up a write fails before it comes to the entry, or else it drops the entry. -/
theorem cancelWrite_drops (first : location.first = .ok chunk)
    (named : chunk.attrs.str Chunk.nameKey "" = .ok name) (s : OnSite) :
    (∃ e t, cancelWrite location s = .error e t ∧ s.SameView t) ∨
      ∃ u, s.SameView u ∧ cancelWrite location s = dropEntry name u := by
  cases pooled : chunk.attrs.str Chunk.poolKey "" with
  | error e =>
    have fails : (monadLift (chunk.attrs.str Chunk.poolKey "") : StackM String) s = .error e s := by
      rw [pooled]
      rfl
    exact .inl ⟨e, s, (Action.bind_of_ok (read_of_ok first s)).trans (Action.bind_of_error fails),
      Action.Frame.refl s⟩
  | ok poolName =>
    rw [cancelWrite_eq first pooled named]
    have kept := sameView_giveBack poolName location
    cases given : giveBack poolName location s with
    | error e t => exact .inl ⟨e, t, Action.bind_of_error given, kept.of_error given⟩
    | ok _ u => exact .inr ⟨u, kept.of_ok given, Action.bind_of_ok given⟩

theorem failsClean_dropEntry (name : String) : Action.FailsClean (dropEntry name) := by
  unfold dropEntry
  split
  · have reads : Action.Reads (StackM.catalog (.replicas name)) := StackM.reads_catalog rfl
    refine reads.bind_failsClean fun replicas => ?_
    split
    · exact StackM.failsClean_catalog (.unlink name)
    · exact (Action.reads_pure _).failsClean
  · exact (Action.reads_pure _).failsClean

/-- A write that cannot be given up leaves catalog and tables as they were. -/
theorem sameView_of_refused {e : Error} (first : location.first = .ok chunk)
    (named : chunk.attrs.str Chunk.nameKey "" = .ok name)
    (refused : cancelWrite location s = .error e t) : s.SameView t := by
  rcases cancelWrite_drops first named s with ⟨_, _, failed, view⟩ | ⟨u, view, dropped⟩
  · rw [failed] at refused
    cases refused
    exact view
  · rw [dropped] at refused
    rw [failsClean_dropEntry name _ _ _ refused]
    exact view

theorem dropped_of_cancelled (first : location.first = .ok chunk)
    (named : chunk.attrs.str Chunk.nameKey "" = .ok name)
    (done : cancelWrite location s = .ok () t) : ∃ u, s.SameView u ∧ dropEntry name u = .ok () t := by
  rcases cancelWrite_drops first named s with ⟨_, _, failed, -⟩ | ⟨u, view, dropped⟩
  · rw [failed] at done
    cases done
  · exact ⟨u, view, dropped ▸ done⟩

/-- An entry that is dropped is unlinked if the catalog shows no replica of it, or else it stays. -/
theorem dropEntry_eq_ok (browses : u.BrowsesThrough outer session ns)
    (dropped : dropEntry name u = .ok () t) :
    (name ≠ "" ∧ u.stack.excluded.through outer (ns.rowsAt (session.names name)) = [] ∧
        StackM.catalog (.unlink name) u = .ok () t) ∨
      ((name = "" ∨ u.stack.excluded.through outer (ns.rowsAt (session.names name)) ≠ []) ∧
        t = u) := by
  unfold dropEntry at dropped
  by_cases unnamed : name = ""
  · simp only [unnamed, ne_eq, not_true_eq_false, if_false] at dropped
    cases dropped
    exact .inr ⟨.inl unnamed, rfl⟩
  · simp only [ne_eq, unnamed, not_false_eq_true, if_true] at dropped
    obtain ⟨rows, v, shown, checked⟩ := Action.bind_eq_ok_iff.1 dropped
    have reads : Action.Reads (StackM.catalog (.replicas name)) := StackM.reads_catalog rfl
    obtain rfl := reads.of_ok shown
    have same := shown_at browses shown
    cases rows with
    | nil => exact .inl ⟨unnamed, same.symm, checked⟩
    | cons first rest =>
      cases checked
      exact .inr ⟨.inr (same ▸ List.cons_ne_nil first rest), rfl⟩

/-- The entry at the names is still there with all its replicas. -/
structure StillThere (ns next : Namespace) (names : List String) : Prop where
  entry : next.at? names = ns.at? names
  rows : next.rowsAt names = ns.rowsAt names

/-- Nothing is left of a file with replicas where nothing stands at its path. -/
theorem not_stillThere_of_gone {next : Namespace} {names : List String}
    (registered : ns.rowsAt names ≠ []) (gone : next.at? names = none) :
    ¬ StillThere ns next names := by
  intro still
  have none_ : next.rowsAt names = [] := by
    unfold Namespace.rowsAt
    rw [gone]
  rw [still.rows] at none_
  exact registered none_

theorem rowsAt_initial (names : List String) : Namespace.initial.rowsAt names = [] :=
  List.sublist_nil.1 (Namespace.initial.rowsAt_sublist names)

/-- A file with replicas that the catalog unlinks is gone from its namespace. -/
theorem gone_of_unlinked (browses : u.BrowsesThrough outer session ns) (reachable : ns.Reachable)
    (registered : ns.rowsAt (session.names name) ≠ [])
    (unlinked : StackM.catalog (.unlink name) u = .ok () t) :
    ∃ next, t.BrowsesThrough outer session next ∧ next.at? (session.names name) = none := by
  obtain ⟨entry, next, there, made, after | empty⟩ := unlinked_of_ok browses unlinked
  · exact ⟨next, after, reachable.entriesKeyed.at?_unlinked there made⟩
  · rw [empty] at registered
    exact absurd (rowsAt_initial _) registered

/-- Giving up a write of a file with replicas takes its entry and all its replicas away exactly if it
succeeds, and a librarian hides the replicas because the operation has excluded them all. Otherwise
the namespace is as it was. -/
theorem stillThere_iff_of_cancelled (browses : s.BrowsesThrough outer session ns)
    (reachable : ns.Reachable) (first : location.first = .ok chunk)
    (named : chunk.attrs.str Chunk.nameKey "" = .ok name)
    (registered : ns.rowsAt (session.names name) ≠ []) :
    ∃ next, ((cancelWrite location).outcome s).2.BrowsesThrough outer session next ∧
      (StillThere ns next (session.names name) ∨ next.at? (session.names name) = none) ∧
      (StillThere ns next (session.names name) ↔
        ¬ ((∃ t, cancelWrite location s = .ok () t) ∧ name ≠ "" ∧
          s.stack.excluded.Hide outer (ns.rowsAt (session.names name)))) := by
  have same : StillThere ns ns (session.names name) := ⟨rfl, rfl⟩
  cases run : cancelWrite location s with
  | error e t =>
    rw [Action.outcome_of_error run]
    have view := sameView_of_refused first named run
    refine ⟨ns, view.browsesThrough browses, .inl same, fun _ lost => ?_, fun _ => same⟩
    obtain ⟨⟨_, done⟩, -⟩ := lost
    cases done
  | ok _ t =>
    rw [Action.outcome_of_ok run]
    obtain ⟨u, view, dropped⟩ := dropped_of_cancelled first named run
    have browsing := view.browsesThrough browses
    have hides : u.stack.excluded.through outer (ns.rowsAt (session.names name)) = [] ↔
        s.stack.excluded.Hide outer (ns.rowsAt (session.names name)) := by
      rw [view.excluded]
      exact Exclusions.through_eq_nil_iff registered
    rcases dropEntry_eq_ok browsing dropped with ⟨given, hidden, unlinked⟩ | ⟨kept, rfl⟩
    · obtain ⟨next, after, gone⟩ := gone_of_unlinked browsing reachable registered unlinked
      refine ⟨next, after, .inr gone, fun still => ?_, fun kept => ?_⟩
      · exact absurd still (not_stillThere_of_gone registered gone)
      · exact absurd ⟨⟨t, rfl⟩, given, hides.1 hidden⟩ kept
    · refine ⟨ns, browsing, .inl same, fun _ lost => ?_, fun _ => same⟩
      obtain ⟨-, given, hidden⟩ := lost
      exact kept.elim given (· (hides.2 hidden))

/-- A stack of root's with a librarian, which has excluded the one replica of a file. -/
def weary : OnSite :=
  let plain := desk .root ReplicaRights.neighbours
    (Table.ofList [("disk", diskPool "disk" "srv/a" 1000)]) .initial
  { plain with stack := { plain.stack with
      catalog := plain.stack.catalog.map fun chain => { chain with decorators := [.librarian true] }
      excluded := ({} : Exclusions).insert 1 } }

/-- The session of this stack. -/
def tired : CatalogSession :=
  { security := some .root }

/-- A write of another replica of the file. -/
def attempted : Chunk :=
  (({ host := "localhost", path := "srv/a/f" } : Chunk).tag Chunk.poolKey (.str "disk")).tag
    Chunk.nameKey (.str "/f")

/-- The write is given up, and the file is lost with the replica that it had. -/
theorem replica_lost_by_cancelling :
    weary.BrowsesThrough [.librarian true] tired ReplicaRights.neighbours ∧
      ReplicaRights.neighbours.Reachable ∧
      (ReplicaRights.neighbours.rowsAt (tired.names "/f")).map (·.id) = [1] ∧
      ∃ next, ((cancelWrite ⟨[attempted]⟩).outcome weary).2.BrowsesThrough [.librarian true] tired next ∧
        ¬ StillThere ReplicaRights.neighbours next (tired.names "/f") := by
  have browses : weary.BrowsesThrough [.librarian true] tired ReplicaRights.neighbours :=
    ⟨[], 1, rfl, rfl⟩
  have reachable : ReplicaRights.neighbours.Reachable :=
    Namespace.Reachable.initial.run (by decide +kernel)
  have ids : (ReplicaRights.neighbours.rowsAt (tired.names "/f")).map (·.id) = [1] := by
    decide +kernel
  have registered : ReplicaRights.neighbours.rowsAt (tired.names "/f") ≠ [] := by
    intro none_
    rw [none_] at ids
    cases ids
  have cancelled : (match cancelWrite ⟨[attempted]⟩ weary with
      | .ok .. => true
      | .error .. => false) = true := by
    decide +kernel
  have first : Location.first ⟨[attempted]⟩ = .ok attempted := rfl
  have named : attempted.attrs.str Chunk.nameKey "" = .ok "/f" := rfl
  obtain ⟨next, after, -, still⟩ :=
    stillThere_iff_of_cancelled browses reachable first named registered
  refine ⟨browses, reachable, ids, next, after, fun kept => still.1 kept ⟨?_, by decide, ?_⟩⟩
  · cases run : cancelWrite ⟨[attempted]⟩ weary with
    | ok _ t => exact ⟨t, rfl⟩
    | error e t =>
      rw [run] at cancelled
      cases cancelled
  · refine ⟨List.mem_singleton.2 rfl, fun row member => ?_⟩
    have one : row.id = 1 := List.mem_singleton.1 (ids ▸ List.mem_map_of_mem member)
    rw [one]
    rfl

end Resolution
end Stowage
