import Stowage.Contract.Catalog
import Stowage.Contract.Io
import Stowage.Contract.Pools

/-!
The nodes of the profiler, around a catalog, a pool manager and an IO driver, and around every file that
is opened through it. Each of them hands a call on and reports how long it took. Reports go to the log,
so that all of this leaves no trace in the answers or the state; only an opened file can tell that it
went through a profiler.
-/
namespace Stowage.Profiler

variable {σ α : Type}

/-- Hands a call on. What came of it is reported, with the time it took, and is the result. -/
def timed (call : Action σ α) : Action σ α := fun s =>
  match call s with
  | .ok a t => .ok a t
  | .error e t => .error e t

theorem timed_eq (call : Action σ α) : timed call = call := by
  funext s
  unfold timed
  cases call s <;> rfl

/-- Around a catalog. A plain status is not among the calls that the profiler has an answer to: it comes
from the whole entry that the profiler itself is asked for. -/
def catalog (inner : Contract.catalog.Handler σ) : Contract.catalog.Handler σ
  | .changeDir path => timed (inner (.changeDir path))
  | .workingDir => timed (inner .workingDir)
  | .umask mask => timed (inner (.umask mask))
  | .entry path => timed (inner (.entry path))
  | .stat path => do
    let entry ← timed (inner (.entry path))
    return entry.stat
  | .access path requested => timed (inner (.access path requested))
  | .setMode path mode => timed (inner (.setMode path mode))
  | .setOwner path uid gid => timed (inner (.setOwner path uid gid))
  | .setSize path size => timed (inner (.setSize path size))
  | .setAcl path acl => timed (inner (.setAcl path acl))
  | .replicas path => timed (inner (.replicas path))
  | .addReplica replica => timed (inner (.addReplica replica))
  | .deleteReplica replica => timed (inner (.deleteReplica replica))
  | .updateReplica replica => timed (inner (.updateReplica replica))
  | .create path mode => timed (inner (.create path mode))
  | .makeDir path mode => timed (inner (.makeDir path mode))
  | .unlink path => timed (inner (.unlink path))
  | .removeDir path => timed (inner (.removeDir path))
  | .readDir path => timed (inner (.readDir path))

/-- Around a pool manager. -/
def pools (inner : Contract.pools.Handler σ) : Contract.pools.Handler σ
  | .list filter => timed (inner (.list filter))
  | .get name => timed (inner (.get name))
  | .create pool => timed (inner (.create pool))
  | .update pool => timed (inner (.update pool))
  | .delete pool => timed (inner (.delete pool))

/-- Around an IO driver. The files that it opens are measured as well. -/
def io (slowMs : Nat) (inner : Contract.io.Handler σ) : Contract.io.Handler σ
  | .open_ file flags attrs => do
    let opened ← timed (inner (.open_ file flags attrs))
    return opened.profiled slowMs

/-- Around an open file. Whether the end was reached is told without a report. -/
def file (inner : Transfer.Handler) : Transfer.Handler
  | .read count => timed (inner (.read count))
  | .write data => timed (inner (.write data))
  | .seek offset origin => timed (inner (.seek offset origin))
  | .tell => timed (inner .tell)
  | .flush => timed (inner .flush)
  | .atEnd => inner .atEnd
  | .close => timed (inner .close)

theorem catalog_eq (inner : Contract.catalog.Handler σ) :
    catalog inner = Contract.catalog.forward inner := by
  funext r
  cases r with
  | stat path =>
    unfold catalog Contract.catalog.forward
    dsimp only
    rw [timed_eq]
  | _ => exact timed_eq _

theorem pools_eq (inner : Contract.pools.Handler σ) : pools inner = inner := by
  funext r
  cases r <;> exact timed_eq _

theorem io_eq (slowMs : Nat) (inner : Contract.io.Handler σ) (file : String) (flags : OpenFlags)
    (attrs : Attributes) :
    io slowMs inner (.open_ file flags attrs) = (do
      let opened ← inner (.open_ file flags attrs)
      return opened.profiled slowMs) := by
  unfold io
  dsimp only
  rw [timed_eq]

theorem file_eq (inner : Transfer.Handler) : file inner = inner := by
  funext t
  cases t with
  | atEnd => rfl
  | _ => exact timed_eq _

end Profiler

/-- What is done with an open file goes through the profilers around its handle. -/
def OpenFile.act (opened : OpenFile) : Transfer.Handler :=
  opened.profilers.foldr (fun _ => Profiler.file) Transfer.act

/-- However many profilers there are, the handle does what it does by itself. -/
theorem OpenFile.act_eq (opened : OpenFile) : opened.act = Transfer.act := by
  unfold act
  induction opened.profilers with
  | nil => rfl
  | cons slowMs rest ih =>
    rw [List.foldr_cons, ih]
    exact Profiler.file_eq _

end Stowage
