import Stowage.Proofs.Effects

/-! Stacks at work on one site. A run is a sequence of moves, each made by one of the stacks, and the
deeds it leaves are the moves with what came of them. Between the moves bytes go through open files and
time passes. What holds of a run is read off the effects of its moves: every location that was issued
comes from a search for one, and every replica row was there at the start or was reported by a stack
that wrote it. -/
namespace Stowage

/-- A site and the stacks that work on it. -/
structure Office where
  site : Site
  workers : Nat → Stack

namespace Office

/-- One of the stacks, on the site. -/
def at_ (o : Office) (i : Nat) : OnSite :=
  ⟨o.workers i, o.site⟩

/-- The office after one of the stacks is done. -/
def put (o : Office) (i : Nat) (s : OnSite) : Office :=
  ⟨s.site, fun j => if j = i then s.stack else o.workers j⟩

end Office

/-- What a stack does about the files of a site. -/
inductive Move where
  | read (path : String)
  | write (path : String)
  | done (location : Location) (size : Nat)
  | cancel (location : Location)
  /-- Opens the file of a chunk, with the attributes that the chunk came with. -/
  | access (chunk : Chunk) (flags : OpenFlags)

namespace Move

/-- The move as an action, which may give a location. -/
def act : Move → StackM (Option Location)
  | .read path => do return some (← Resolution.whereToRead path)
  | .write path => do return some (← Resolution.whereToWrite path)
  | .done location size => do
    Resolution.doneWriting location size
    return none
  | .cancel location => do
    Resolution.cancelWrite location
    return none
  | .access chunk flags => do
    let _ ← StackM.io (.open_ chunk.path flags chunk.attrs)
    return none

/-- The effects that the move can have. -/
def kind : Move → Effect → Prop
  | .read _ => Effect.Reading
  | .write _ => Effect.Writing
  | .done location _ => Effect.Reporting location
  | .cancel _ => Effect.Cancelling
  | .access .. => Effect.Accessing

theorem does (m : Move) : Action.Keeps (OnSite.Does m.kind) m.act := by
  cases m with
  | read path => exact (Resolution.does_whereToRead path).bind fun _ => (Action.reads_pure _).keeps
  | write path => exact (Resolution.does_whereToWrite path).bind fun _ => (Action.reads_pure _).keeps
  | done location size =>
    exact (Resolution.does_doneWriting location size).bind fun _ => (Action.reads_pure _).keeps
  | cancel location =>
    exact (Resolution.does_cancelWrite location).bind fun _ => (Action.reads_pure _).keeps
  | access chunk flags =>
    exact (StackM.does_io (fun _ => trivial) _).bind fun _ => (Action.reads_pure _).keeps

/-- No move is anything to the chains of the stack. -/
theorem sameChains (m : Move) : Action.Keeps OnSite.SameChains m.act := by
  have drivers := StackM.sameChains_driver
  have turns := Resolution.sameChains_select
  have asks := StackM.sameChains_askDriver
  cases m with
  | read path =>
    exact (Resolution.keeps_whereToRead drivers turns path).bind fun _ =>
      (Action.reads_pure _).keeps
  | write path =>
    have creates := fun path => StackM.sameChains_create path Resolution.newFileMode
    exact (Resolution.keeps_whereToWrite drivers turns asks creates path).bind fun _ =>
      (Action.reads_pure _).keeps
  | done location size =>
    have adds := fun chunk pool entry (_ : location.first = .ok chunk) =>
      StackM.sameChains_addReplica (Resolution.writtenReplica chunk pool entry)
    have sizes := fun name => StackM.sameChains_setSize name size
    have updates := fun pool => StackM.sameChains_pools (.update pool)
    exact (Resolution.keeps_doneWriting drivers adds sizes updates).bind fun _ =>
      (Action.reads_pure _).keeps
  | cancel location =>
    have unlinks := StackM.sameChains_unlink
    exact (Resolution.keeps_cancelWrite drivers asks unlinks location).bind fun _ =>
      (Action.reads_pure _).keeps
  | access chunk flags =>
    exact (StackM.sameChains_io _).bind fun _ => (Action.reads_pure _).keeps

end Move

/-- A move of one of the stacks, with what came of it. -/
structure Deed where
  stack : Nat
  move : Move
  outcome : Except Error (Option Location)

/-- The deed reports a write, and the row stands for what was written. -/
def Deed.Reports (deed : Deed) (row : Replica) : Prop :=
  ∃ location size chunk, deed.move = .done location size ∧ location.first = .ok chunk ∧
    row.server = chunk.host ∧ row.rfn = chunk.host ++ ":" ++ chunk.path

namespace Office

/-- What comes of a move. -/
def outcome (o : Office) (i : Nat) (m : Move) : Except Error (Option Location) :=
  (m.act.outcome (o.at_ i)).1

/-- The office after a move. -/
def after (o : Office) (i : Nat) (m : Move) : Office :=
  o.put i (m.act.outcome (o.at_ i)).2

/-- The office with another machine. -/
def onHost (o : Office) (host : Host) : Office :=
  { o with site := { o.site with host } }

theorem leads_after (o : Office) (i : Nat) (m : Move) : Leads m.kind o.site (o.after i m).site :=
  (m.does (o.at_ i)).site

theorem outcome_done (o : Office) (i : Nat) (location : Location) (size : Nat) :
    o.outcome i (.done location size) =
      ((Resolution.doneWriting location size).outcome (o.at_ i)).1.map fun _ => none :=
  congrArg Prod.fst (Action.outcome_bind_pure _ (fun _ => none) _)

theorem outcome_cancel (o : Office) (i : Nat) (location : Location) :
    o.outcome i (.cancel location) =
      ((Resolution.cancelWrite location).outcome (o.at_ i)).1.map fun _ => none :=
  congrArg Prod.fst (Action.outcome_bind_pure _ (fun _ => none) _)

theorem site_cancel (o : Office) (i : Nat) (location : Location) :
    (o.after i (.cancel location)).site =
      ((Resolution.cancelWrite location).outcome (o.at_ i)).2.site :=
  congrArg (fun left : Except Error (Option Location) × OnSite => left.2.site)
    (Action.outcome_bind_pure _ (fun _ => none) _)

theorem site_done (o : Office) (i : Nat) (location : Location) (size : Nat) :
    (o.after i (.done location size)).site =
      ((Resolution.doneWriting location size).outcome (o.at_ i)).2.site :=
  congrArg (fun left : Except Error (Option Location) × OnSite => left.2.site)
    (Action.outcome_bind_pure _ (fun _ => none) _)

end Office

/-- Runs from an office, with the deeds so far, the last one first. -/
inductive Runs (start : Office) : List Deed → Office → Prop where
  | start : Runs start [] start
  /-- One of the stacks makes a move. -/
  | move {deeds : List Deed} {o : Office} (ran : Runs start deeds o) (i : Nat) (m : Move) :
      Runs start (⟨i, m, o.outcome i m⟩ :: deeds) (o.after i m)
  /-- Bytes go through open files, and time passes. -/
  | transfer {deeds : List Deed} {o : Office} (ran : Runs start deeds o) (host : Host) :
      Runs start deeds (o.onHost host)

namespace Runs

variable {start office : Office} {deeds : List Deed}

/-- A stack was given the location to write the path to. -/
def Issued (deeds : List Deed) (path : String) (location : Location) : Prop :=
  ∃ i, ⟨i, .write path, .ok (some location)⟩ ∈ deeds

/-- A location that comes of a move to write is what the search for one came to. -/
theorem located_of_outcome {o : Office} {i : Nat} {path : String} {location : Location}
    (answered : o.outcome i (.write path) = .ok (some location)) :
    ∃ t, Resolution.whereToWrite path (o.at_ i) = .ok location t := by
  unfold Office.outcome Action.outcome at answered
  cases searched : (Move.write path).act (o.at_ i) with
  | error e t =>
    rw [searched] at answered
    cases answered
  | ok answer t =>
    rw [searched] at answered
    cases answered
    obtain ⟨found, u, located, returned⟩ := Action.bind_eq_ok_iff.1 searched
    cases returned
    exact ⟨_, located⟩

/-- A location that a stack was given is what its search for one came to, at some time of the run. -/
theorem located_by (run : Runs start deeds office) {i : Nat} {path : String} {location : Location}
    (wrote : ⟨i, .write path, .ok (some location)⟩ ∈ deeds) :
    ∃ past earlier t, Runs start past earlier ∧
      Resolution.whereToWrite path (earlier.at_ i) = .ok location t := by
  induction run with
  | start => cases wrote
  | transfer _ _ ih => exact ih wrote
  | @move deeds o ran j m ih =>
    rcases List.mem_cons.1 wrote with same | earlier
    · injection same with mover moved answered
      subst mover moved
      obtain ⟨t, located⟩ := located_of_outcome answered.symm
      exact ⟨_, o, t, ran, located⟩
    · exact ih earlier

/-- A location that was issued is what a search for one came to. -/
theorem located (run : Runs start deeds office) {path : String} {location : Location}
    (issued : Issued deeds path location) :
    ∃ s t, Resolution.whereToWrite path s = .ok location t := by
  obtain ⟨i, wrote⟩ := issued
  obtain ⟨_, o, t, -, located⟩ := run.located_by wrote
  exact ⟨o.at_ i, t, located⟩

/-- The stacks keep their chains. -/
theorem sameChains (run : Runs start deeds office) (i : Nat) :
    (start.at_ i).SameChains (office.at_ i) := by
  induction run with
  | start => exact Action.Frame.refl _
  | transfer _ _ ih => exact ⟨ih.catalog, ih.pools⟩
  | @move deeds o _ j m ih =>
    refine Action.Frame.trans ih ?_
    by_cases mover : i = j
    · subst mover
      have kept := m.sameChains (o.at_ i)
      unfold Office.after Office.put Office.at_ at *
      simp only [if_true]
      exact ⟨kept.catalog, kept.pools⟩
    · unfold Office.after Office.put Office.at_
      simp only [mover, if_false]
      exact ⟨rfl, rfl⟩

/-- What every request to a namespace keeps, every run keeps. -/
theorem namespace_ {holds : Namespace → Prop} (step : ∀ ns r, holds ns → holds (ns.after r))
    (run : Runs start deeds office) {id : FactoryId} (before : holds (start.site.namespace_ id)) :
    holds (office.site.namespace_ id) := by
  induction run with
  | start => exact before
  | transfer _ _ ih => exact ih
  | @move deeds o _ j m ih => exact (o.leads_after j m).namespace_ step ih

/-- A row that is registered was registered at the start, or one of the stacks has reported it. -/
theorem registered (run : Runs start deeds office) {id : FactoryId} {row : Replica}
    (there : office.site.Registers id row) :
    start.site.Registers id row ∨ ∃ deed ∈ deeds, deed.Reports row := by
  induction run with
  | start => exact .inl there
  | transfer _ _ ih => exact ih there
  | @move deeds o _ j m ih =>
    have still : ∀ id record, ¬ m.kind (.names id (.updateReplica record)) := by
      intro id record
      cases m with
      | read | write | done | cancel | access => exact not_false
    -- A row that is new comes from the one kind of effect that adds rows, which only reports have.
    rcases (o.leads_after j m).registers still there with before | ⟨record, added, same⟩
    · rcases ih before with first | ⟨deed, member, reports⟩
      · exact .inl first
      · exact .inr ⟨deed, List.mem_cons_of_mem _ member, reports⟩
    · refine .inr ⟨_, List.mem_cons_self, ?_⟩
      cases m with
      | done location size =>
        obtain ⟨chunk, pool, entry, first, rfl⟩ := added
        rw [same]
        exact ⟨location, size, chunk, rfl, first, rfl, rfl⟩
      | read | write | cancel | access => exact added.elim

/-- Where all drivers are for disk pools, no run brings others, whichever stack makes them. -/
theorem diskOnly (run : Runs start deeds office) (disks : ∀ i, (start.at_ i).DiskOnly) (i : Nat) :
    (office.at_ i).DiskOnly := by
  induction run generalizing i with
  | start => exact disks i
  | transfer _ _ ih => exact ⟨(ih i).made, (ih i).makes⟩
  | @move deeds o _ j m ih =>
    have makes := (o.leads_after j m).drivers (ih i).makes
    refine ⟨fun pair member => ?_, makes⟩
    by_cases mover : i = j
    · have own := ((m.does (o.at_ j)).disks (ih j)).made
      apply own
      simpa [Office.after, Office.put, Office.at_, mover] using member
    · apply (ih i).made
      simpa [Office.after, Office.put, Office.at_, mover] using member

end Runs
end Stowage
