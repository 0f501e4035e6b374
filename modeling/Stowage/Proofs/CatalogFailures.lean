import Stowage.Proofs.CleanFailures
import Stowage.Proofs.ReplicaRights

/-! What a failed request to the catalog leaves over a namespace in memory. The namespace checks before it
writes, and nothing that it does between or after its writes can fail: done one after another, they come to
the same as at once. So a request that fails leaves entries, names, rows, counters and session as they
were. -/
namespace Stowage

namespace Table

variable {κ ν : Type} [Ord κ] [Std.LawfulEqOrd κ] {t : Table κ ν} {key : κ}

/-- A key that is not there is erased without a change. -/
theorem erase_of_get?_none (absent : t.get? key = none) : t.erase key = t := by
  obtain ⟨pairs⟩ := t
  have apart : ∀ pair ∈ pairs, compare key pair.1 ≠ .eq := by
    unfold get? at absent
    induction pairs with
    | nil => exact nofun
    | cons first rest ih =>
      unfold find at absent
      split at absent
      · cases absent
      · rename_i differ
        intro pair member
        rcases List.mem_cons.1 member with rfl | later
        · exact differ
        · exact ih absent pair later
  exact congrArg mk (List.filter_eq_self.2 fun pair member => by simpa using apart pair member)

end Table

namespace Action

variable {σ α β γ : Type}

/-- What is left by an action that first computes all and then writes, if it has not failed. -/
def settle (finish : γ → α × σ) (s : σ) : Except Error γ → EStateM.Result Error σ α
  | .ok c => .ok (finish c).1 (finish c).2
  | .error e => .error e s

theorem update_apply (f : σ → Except Error (α × σ)) (s : σ) : update f s = settle id s (f s) := by
  unfold update settle
  cases f s <;> rfl

/-- A check in steps agrees with the same check made ahead, if what follows it does. -/
theorem ofExcept_bind_eq_settle {check : Except Error β} {next : β → Action σ α}
    {rest : β → Except Error γ} {finish : γ → α × σ} {s : σ}
    (same : ∀ b, check = .ok b → next b s = settle finish s (rest b)) :
    (ofExcept check >>= next) s = settle finish s (check >>= rest) := by
  cases check with
  | error e => rfl
  | ok b => exact same b rfl

/-- What a check in steps refuses, the check made ahead refuses too. -/
theorem guarded_eq_settle {p : Prop} [Decidable p] {e : Error} {after : β → Action σ α}
    {later : β → Except Error γ} {next : Action σ α} {rest : Except Error γ} {finish : γ → α × σ} {s : σ}
    (same : ¬ p → next s = settle finish s rest) :
    (if p then (throw e >>= after) else next) s =
      settle finish s (if p then (throw e >>= later) else rest) := by
  by_cases refused : p
  · rw [if_pos refused, if_pos refused]
    rfl
  · rw [if_neg refused, if_neg refused]
    exact same refused

end Action

namespace Namespace

theorem change_of_error {f : Namespace → Except Error Namespace} {ns : Namespace} {e : Error}
    (refused : f ns = .error e) : change f ns = .error e ns :=
  Action.update_of_error (by rw [refused]; rfl)

theorem change_apply (f : Namespace → Except Error Namespace) (ns : Namespace) :
    change f ns = Action.settle (fun next => ((), next)) ns (f ns) := by
  cases made : f ns with
  | error e =>
    rw [change_of_error made]
    rfl
  | ok next =>
    rw [change_eq_ok_iff.2 made]
    rfl

/-- Makes an entry: after the checks one write after another, and then the directory is looked up again. -/
def createInSteps (template : Entry) : Action Namespace Entry := do
  let ns ← get
  let parent ← ns.entry template.parent
  if ¬ parent.stat.isDirectory then throw (.notADirectory parent.name)
  if template.name = "" ∨ '/' ∈ template.name.toList then
    throw (.invalidArgument ("invalid entry name '" ++ template.name ++ "'"))
  let key : NameKey := ⟨template.parent, template.name⟩
  if ns.names.contains key then throw (.alreadyExists template.name)
  modify fun now => { now with nextIno := now.nextIno + 1 }
  let created :=
    { template with stat := { template.stat with ino := ns.nextIno, size := 0, nlink := 1 } }
  modify fun now => { now with names := now.names.insert key ns.nextIno }
  modify fun now => { now with entries := now.entries.insert ns.nextIno created }
  let _ ← Action.query (·.entry template.parent)
  return created

/-- Removes an entry: after the checks its name, its record and then its replicas. -/
def unlinkInSteps (ino : Nat) : Action Namespace Unit := do
  let ns ← get
  if ino = rootIno then throw (.invalidArgument "the root inode cannot be removed")
  let entry ← ns.entry ino
  if entry.stat.isDirectory ∧ ns.childrenOf ino ≠ [] then throw (.notEmpty entry.name)
  modify fun now => { now with names := now.names.erase ⟨entry.parent, entry.name⟩ }
  modify fun now => { now with entries := now.entries.erase ino }
  modify fun now => { now with replicas := now.replicas.filterValues fun r => r.file ≠ ino }

/-- Registers a replica: after the checks the counter moves, and then the row is put in its place. -/
def addReplicaInSteps (record : Replica) : Action Namespace Unit := do
  let ns ← get
  let file ← ns.entry record.file
  if file.stat.isDirectory then throw (.isADirectory file.name)
  if ns.replicas.values.any fun r => r.file = record.file ∧ r.rfn = record.rfn then
    throw (.alreadyExists record.rfn)
  if record.id ≠ 0 ∧ ns.replicas.contains record.id then
    throw (.alreadyExists ("replica " ++ Text.ofInt record.id))
  let id := ns.idFor record
  modify fun now => { now with nextReplica := max now.nextReplica (id + 1) }
  modify fun now => { now with replicas := now.replicas.insert id { record with id } }

/-- Takes a row away, and fails afterwards if there was none. -/
def deleteReplicaInSteps (id : Int) : Action Namespace Unit := do
  let ns ← get
  modify fun ns => { ns with replicas := ns.replicas.erase id }
  let _ ← Action.ofExcept (ns.replica id)

/-- The namespace as an implementation of its contract that makes one write after another. -/
def handlerInSteps : Contract.inode.Handler Namespace
  | .create template => createInSteps template
  | .unlink ino => unlinkInSteps ino
  | .addReplica record => addReplicaInSteps record
  | .deleteReplica record => deleteReplicaInSteps record.id
  | r => handler r

/-- The directory of a new entry is still there when all is written, so the last look-up finds it. -/
theorem createInSteps_eq (template : Entry) : createInSteps template = handler (.create template) := by
  funext ns
  change createInSteps template ns = Action.update (·.create template) ns
  rw [Action.update_apply, createInSteps, Action.get_bind_apply]
  refine Action.ofExcept_bind_eq_settle fun parent above =>
    Action.guarded_eq_settle fun directory => ?_
  refine Action.guarded_eq_settle fun proper => Action.guarded_eq_settle fun free => ?_
  have found : ∃ dir, (ns.entries.insert ns.nextIno { template with
      stat := { template.stat with ino := ns.nextIno, size := 0, nlink := 1 } }).get?
        template.parent = some dir := by
    rw [Table.get?_insert]
    split
    · exact ⟨_, rfl⟩
    · exact ⟨parent, entry_eq_ok_iff.1 above⟩
  obtain ⟨dir, there⟩ := found
  exact Action.bind_of_ok (Action.query_of_ok (f := (Namespace.entry · template.parent))
    (entry_eq_ok_iff.2 there))

theorem unlinkInSteps_eq (ino : Nat) : unlinkInSteps ino = handler (.unlink ino) := by
  funext ns
  change unlinkInSteps ino ns = change (·.unlink ino) ns
  rw [change_apply, unlinkInSteps, Action.get_bind_apply]
  refine Action.guarded_eq_settle fun other => Action.ofExcept_bind_eq_settle fun entry stored => ?_
  exact Action.guarded_eq_settle fun empty => rfl

theorem addReplicaInSteps_eq (record : Replica) :
    addReplicaInSteps record = handler (.addReplica record) := by
  funext ns
  change addReplicaInSteps record ns = change (·.addReplica record) ns
  rw [change_apply, addReplicaInSteps, Action.get_bind_apply]
  refine Action.ofExcept_bind_eq_settle fun file there => Action.guarded_eq_settle fun plain => ?_
  exact Action.guarded_eq_settle fun single => Action.guarded_eq_settle fun unused => rfl

/-- Where there was no row, taking it away has changed nothing. -/
theorem deleteReplicaInSteps_eq (record : Replica) :
    deleteReplicaInSteps record.id = handler (.deleteReplica record) := by
  funext ns
  change ((Action.ofExcept (ns.replica record.id) : Action Namespace Replica) >>= fun _ => pure ())
    { ns with replicas := ns.replicas.erase record.id } = change (·.deleteReplica record.id) ns
  cases stored : ns.replicas.get? record.id with
  | none =>
    have missed := replica_of_get?_none stored
    have refused : ns.deleteReplica record.id = .error (missingReplica record.id) := by
      rw [deleteReplica, missed]
      rfl
    rw [change_of_error refused, Table.erase_of_get?_none stored, missed]
    rfl
  | some row =>
    rw [change_eq_ok_iff.2 (deleteReplica_eq_ok_iff.2 ⟨⟨row, stored⟩, rfl⟩),
      replica_eq_ok_iff.2 stored]
    rfl

/-- Made one write after another, changes come to the same as at once, and fail in the same way. -/
theorem handlerInSteps_eq : handlerInSteps = handler := by
  funext r
  cases r with
  | create template => exact createInSteps_eq template
  | unlink ino => exact unlinkInSteps_eq ino
  | addReplica record => exact addReplicaInSteps_eq record
  | deleteReplica record => exact deleteReplicaInSteps_eq record
  | entry | child | stat | statChild | readDir | replicas | replica | updateReplica | setMode
  | setSize => rfl

end Namespace

namespace BuiltIn

/-- Whatever the session and the namespace are, a request that the catalog fails at has left both as they
were; this is so whether the namespace makes its writes at once or one after another. -/
theorem unchanged_of_failed :
    Namespace.handlerInSteps = Namespace.handler ∧
      ∀ (r : CatalogRequest) (b after : Browsing Namespace) (e : Error),
        handler (some Namespace.handlerInSteps) r b = .error e after → after = b := by
  refine ⟨Namespace.handlerInSteps_eq, fun r b after e failed => ?_⟩
  rw [Namespace.handlerInSteps_eq] at failed
  exact failsClean_handler belowReads_namespace belowFailsClean_namespace r b e after failed

/-- The owner of a file presents a record with an id that no row has: the row is taken away before it is
missed, and all is as it was. -/
theorem unchanged_of_missing_row :
    let b : Browsing Namespace := ⟨{ security := some ReplicaRights.alice }, ReplicaRights.neighbours⟩
    ∃ e after, handler (some Namespace.handlerInSteps) (.deleteReplica { id := 9, file := 3 }) b =
      .error e after ∧ after = b := by
  intro b
  obtain ⟨e, after, failed⟩ : ∃ e after, handler (some Namespace.handlerInSteps)
      (.deleteReplica { id := 9, file := 3 }) b = .error e after := by
    have required : requireReplica (some Namespace.handlerInSteps) { id := 9, file := 3 } b = .ok () b := by
      rw [Namespace.handlerInSteps_eq]
      exact ReplicaRights.required_iff_mayWriteFile.2 ⟨by decide +kernel, rfl⟩
    exact ⟨_, _, (Action.bind_of_ok required).trans rfl⟩
  exact ⟨e, after, failed, unchanged_of_failed.2 _ b after e failed⟩

end BuiltIn
end Stowage
