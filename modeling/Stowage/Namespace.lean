import Stowage.Contract.Inode
import Stowage.Table

/-!
The namespace in memory: entries by inode number, an index of names by parent, and the replicas.
An inode number is given out once. A failed operation changes nothing.

The times of entries are left out. The program notes the time on an entry when it is made and when its
mode or size changes, and on a directory when an entry is made in it or removed from it.
-/
namespace Stowage

/-- The name of an entry within its parent, ordered by parent and then by name. -/
structure NameKey where
  parent : Nat
  name : String
  deriving DecidableEq, Repr, Inhabited

namespace NameKey

instance : Ord NameKey :=
  ⟨compareLex (compareOn NameKey.parent) (compareOn NameKey.name)⟩

instance : Std.TransOrd NameKey :=
  inferInstanceAs (Std.TransCmp (compareLex (compareOn NameKey.parent) (compareOn NameKey.name)))

instance : Std.LawfulEqOrd NameKey where
  eq_of_compare {a b} equal := by
    obtain ⟨parents, names⟩ := compareLex_eq_eq.1 equal
    obtain ⟨p, n⟩ := a
    obtain ⟨q, m⟩ := b
    exact NameKey.mk.injEq .. ▸ ⟨Std.LawfulEqOrd.eq_of_compare parents,
      Std.LawfulEqOrd.eq_of_compare names⟩

end NameKey

structure Namespace where
  entries : Table Nat Entry
  names : Table NameKey Nat
  replicas : Table Int Replica
  nextIno : Nat
  nextReplica : Int
  deriving Repr

namespace Namespace

/-- The number under which the root is registered as a child. -/
def rootParent : Nat := 0

def rootIno : Nat := 1

def rootEntry : Entry where
  name := "/"
  parent := rootParent
  stat := { ino := rootIno, mode := Mode.directory ||| 0o755, nlink := 1 }

/-- The namespace that holds the root directory alone. -/
def initial : Namespace where
  entries := Table.ofList [(rootIno, rootEntry)]
  names := Table.ofList [(⟨rootParent, "/"⟩, rootIno)]
  replicas := ∅
  nextIno := rootIno + 1
  nextReplica := 1

instance : Inhabited Namespace := ⟨initial⟩

private def orError {α : Type} (e : Error) : Option α → Except Error α
  | some a => .ok a
  | none => .error e

/-- The failure of an operation on a number that no entry has. -/
def missing (ino : Nat) : Error :=
  .fileNotFound ("inode " ++ Text.ofInt ino)

def missingReplica (id : Int) : Error :=
  .noSuchReplica ("replica " ++ Text.ofInt id ++ " not found")

def entry (ns : Namespace) (ino : Nat) : Except Error Entry :=
  orError (missing ino) (ns.entries.get? ino)

def child (ns : Namespace) (parent : Nat) (name : String) : Except Error Entry := do
  ns.entry (← orError (.fileNotFound name) (ns.names.get? ⟨parent, name⟩))

theorem entry_eq_ok_iff {ns : Namespace} {ino : Nat} {e : Entry} :
    ns.entry ino = .ok e ↔ ns.entries.get? ino = some e := by
  unfold Namespace.entry
  cases ns.entries.get? ino <;> simp [orError]

theorem kind_of_entry_eq_error {ns : Namespace} {ino : Nat} {e : Error}
    (failed : ns.entry ino = .error e) : e.kind = .fileNotFound := by
  unfold Namespace.entry at failed
  cases found : ns.entries.get? ino with
  | none => rw [found] at failed; cases failed; rfl
  | some entry => rw [found] at failed; cases failed

/-- A look-up by name fails in one way only. -/
theorem kind_of_child_eq_error {ns : Namespace} {parent : Nat} {name : String} {e : Error}
    (failed : ns.child parent name = .error e) : e.kind = .fileNotFound := by
  unfold child at failed
  cases found : ns.names.get? ⟨parent, name⟩ with
  | none => rw [found] at failed; cases failed; rfl
  | some ino =>
    rw [found] at failed
    exact kind_of_entry_eq_error failed

/-- The numbers of the entries in a directory, in order of their names. -/
def childrenOf (ns : Namespace) (ino : Nat) : List Nat :=
  (ns.names.entries.filter fun (key, _) => key.parent = ino).map Prod.snd

/-- A new entry made from a template: number, size and link count are the namespace's to say. -/
def create (ns : Namespace) (template : Entry) : Except Error (Entry × Namespace) := do
  let parent ← ns.entry template.parent
  if ¬ parent.stat.isDirectory then throw (.notADirectory parent.name)
  if template.name = "" ∨ '/' ∈ template.name.toList then
    throw (.invalidArgument ("invalid entry name '" ++ template.name ++ "'"))
  let key : NameKey := ⟨template.parent, template.name⟩
  if ns.names.contains key then throw (.alreadyExists template.name)
  let created :=
    { template with stat := { template.stat with ino := ns.nextIno, size := 0, nlink := 1 } }
  return (created, { ns with
    entries := ns.entries.insert ns.nextIno created
    names := ns.names.insert key ns.nextIno
    nextIno := ns.nextIno + 1 })

/-- Removes an entry and its replicas. Directories must be empty, and the root stays. -/
def unlink (ns : Namespace) (ino : Nat) : Except Error Namespace := do
  if ino = rootIno then throw (.invalidArgument "the root inode cannot be removed")
  let entry ← ns.entry ino
  if entry.stat.isDirectory ∧ ns.childrenOf ino ≠ [] then throw (.notEmpty entry.name)
  return { ns with
    entries := ns.entries.erase ino
    names := ns.names.erase ⟨entry.parent, entry.name⟩
    replicas := ns.replicas.filterValues fun r => r.file ≠ ino }

/-- The entries of a directory, in order of their names. -/
def readDir (ns : Namespace) (ino : Nat) : Except Error (List Entry) := do
  let dir ← ns.entry ino
  if ¬ dir.stat.isDirectory then throw (.notADirectory dir.name)
  (ns.childrenOf ino).mapM ns.entry

/-- The replicas of a file, in order of their ids. -/
def replicasOf (ns : Namespace) (ino : Nat) : Except Error (List Replica) := do
  let _ ← ns.entry ino
  return ns.replicas.values.filter fun r => r.file = ino

def replica (ns : Namespace) (id : Int) : Except Error Replica :=
  orError (missingReplica id) (ns.replicas.get? id)

theorem replica_eq_ok_iff {ns : Namespace} {id : Int} {r : Replica} :
    ns.replica id = .ok r ↔ ns.replicas.get? id = some r := by
  unfold Namespace.replica
  cases ns.replicas.get? id <;> simp [orError]

theorem replica_of_get?_none {ns : Namespace} {id : Int} (absent : ns.replicas.get? id = none) :
    ns.replica id = .error (missingReplica id) := by
  unfold Namespace.replica
  rw [absent]
  rfl

/-- Registers a replica of a file; the id zero asks for the next free one. A file has no two
replicas under one physical name. -/
def addReplica (ns : Namespace) (replica : Replica) : Except Error Namespace := do
  let file ← ns.entry replica.file
  if file.stat.isDirectory then throw (.isADirectory file.name)
  if ns.replicas.values.any fun r => r.file = replica.file ∧ r.rfn = replica.rfn then
    throw (.alreadyExists replica.rfn)
  if replica.id ≠ 0 ∧ ns.replicas.contains replica.id then
    throw (.alreadyExists ("replica " ++ Text.ofInt replica.id))
  let id := if replica.id = 0 then ns.nextReplica else replica.id
  return { ns with
    replicas := ns.replicas.insert id { replica with id }
    nextReplica := max ns.nextReplica (id + 1) }

def deleteReplica (ns : Namespace) (id : Int) : Except Error Namespace := do
  let _ ← ns.replica id
  return { ns with replicas := ns.replicas.erase id }

theorem deleteReplica_eq_ok_iff {ns next : Namespace} {id : Int} :
    ns.deleteReplica id = .ok next ↔
      (∃ row, ns.replicas.get? id = some row) ∧
        { ns with replicas := ns.replicas.erase id } = next := by
  unfold deleteReplica
  cases stored : ns.replicas.get? id with
  | none => simp [replica_of_get?_none stored, bind, Except.bind]
  | some row => simp [replica_eq_ok_iff.2 stored, bind, Except.bind, pure, Except.pure]

/-- Replaces the record of a replica by another with the same id. -/
def updateReplica (ns : Namespace) (replica : Replica) : Except Error Namespace := do
  let _ ← ns.replica replica.id
  return { ns with replicas := ns.replicas.insert replica.id replica }

theorem updateReplica_eq_ok_iff {ns next : Namespace} {record : Replica} :
    ns.updateReplica record = .ok next ↔
      (∃ row, ns.replicas.get? record.id = some row) ∧
        { ns with replicas := ns.replicas.insert record.id record } = next := by
  unfold updateReplica
  cases stored : ns.replicas.get? record.id with
  | none => simp [replica_of_get?_none stored, bind, Except.bind]
  | some row => simp [replica_eq_ok_iff.2 stored, bind, Except.bind, pure, Except.pure]

/-- Puts an entry in the place of the one with its number. -/
def store (ns : Namespace) (ino : Nat) (entry : Entry) : Namespace :=
  { ns with entries := ns.entries.insert ino entry }

/-- Sets owner, permission bits and list; the type bits stay. -/
def setMode (ns : Namespace) (ino : Nat) (uid gid : UInt32) (mode : Mode) (acl : Acl) :
    Except Error Namespace := do
  let entry ← ns.entry ino
  let mode := (entry.stat.mode &&& Mode.typeMask) ||| mode.perm
  return ns.store ino { entry with acl, stat := { entry.stat with uid, gid, mode } }

def setSize (ns : Namespace) (ino : Nat) (size : Nat) : Except Error Namespace := do
  let entry ← ns.entry ino
  return ns.store ino { entry with stat := { entry.stat with size } }

/-- A change without an answer, as an action. -/
def change (f : Namespace → Except Error Namespace) : Action Namespace Unit :=
  Action.update fun ns => do return ((), ← f ns)

theorem change_eq_ok_iff {f : Namespace → Except Error Namespace} {ns next : Namespace} :
    change f ns = .ok () next ↔ f ns = .ok next := by
  unfold change Action.update
  cases made : f ns with
  | error e => simp [made, bind, Except.bind]
  | ok other => simp [made, bind, Except.bind, pure, Except.pure]

/-- The namespace as an implementation of its contract. -/
def handler : Contract.inode.Handler Namespace
  | .create template => Action.update (·.create template)
  | .entry ino => Action.query (·.entry ino)
  | .child parent name => Action.query (·.child parent name)
  | .stat ino => Action.query fun ns => do return (← ns.entry ino).stat
  | .statChild parent name => Action.query fun ns => do return (← ns.child parent name).stat
  | .unlink ino => change (·.unlink ino)
  | .readDir ino => Action.query (·.readDir ino)
  | .replicas ino => Action.query (·.replicasOf ino)
  | .replica id => Action.query (·.replica id)
  | .addReplica replica => change (·.addReplica replica)
  | .deleteReplica replica => change (·.deleteReplica replica.id)
  | .updateReplica replica => change (·.updateReplica replica)
  | .setMode ino uid gid mode acl => change (·.setMode ino uid gid mode acl)
  | .setSize ino size => change (·.setSize ino size)

end Namespace
end Stowage
