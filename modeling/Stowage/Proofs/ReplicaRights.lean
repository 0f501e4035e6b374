import Stowage.Proofs.NamespaceRuns
import Stowage.Proofs.Walks

/-! Who may change a row of the replica table. The catalog asks for write permission on the file
that the presented record names, while the row that changes is found by the id alone. A change
therefore succeeds exactly if the named file may be written and the row is there, and it is guarded
by the file of the row only where the record names that file. -/
namespace Stowage.ReplicaRights
open BuiltIn

/-- The two ways to change a row that is there. -/
inductive RowChange where
  | delete
  | update
  deriving DecidableEq, Repr

/-- The request that presents a record for a change. -/
def RowChange.request (record : Replica) : RowChange → CatalogRequest
  | .delete => .deleteReplica record
  | .update => .updateReplica record

/-- The built-in catalog grants the change and the namespace makes it. -/
def Succeeds (change : RowChange) (record : Replica) (b : Browsing Namespace) : Prop :=
  ∃ answer after, handler (some Namespace.handler) (change.request record) b = .ok answer after

/-- The identity of the session has write permission on the file with this number. -/
def MayWriteFile (b : Browsing Namespace) (ino : Nat) : Prop :=
  ∃ ctx file, b.session.security = some ctx ∧ b.store.entries.get? ino = some file ∧
    file.permits ctx Mode.write = true

instance (b : Browsing Namespace) (ino : Nat) : Decidable (MayWriteFile b ino) :=
  decidable_of_iff
    (b.session.security.any fun ctx =>
      (b.store.entries.get? ino).any fun file => file.permits ctx Mode.write)
    (by simp only [MayWriteFile, Option.any_eq_true, exists_and_left])

/-- The change goes through although the identity has no write permission on the file that the row
belongs to. -/
def Unguarded (change : RowChange) (record : Replica) (b : Browsing Namespace) : Prop :=
  Succeeds change record b ∧
    ∃ row, b.store.replicas.get? record.id = some row ∧ ¬ MayWriteFile b row.file

variable {b after : Browsing Namespace} {record : Replica}

/-- The catalog looks at the file that the record names, and at nothing else of the record. -/
theorem required_iff_mayWriteFile :
    requireReplica (some Namespace.handler) record b = .ok () after ↔
      MayWriteFile b record.file ∧ after = b := by
  rw [requireReplica_eq_ok_iff shows_namespace]
  simp only [MayWriteFile, id_eq, Namespace.entry_eq_ok_iff]

/-- A change succeeds exactly if the file that the record names may be written and a row stands under
the record's id. -/
theorem succeeds_iff (change : RowChange) :
    Succeeds change record b ↔
      MayWriteFile b record.file ∧ ∃ row, b.store.replicas.get? record.id = some row := by
  constructor
  · rintro ⟨answer, after, granted⟩
    cases change with
    | delete =>
      obtain ⟨_, _, required, changed⟩ := Action.bind_eq_ok_iff.1 granted
      obtain ⟨allowed, rfl⟩ := required_iff_mayWriteFile.1 required
      obtain ⟨store, made, -⟩ := ask_eq_ok_iff.1 changed
      have rows := Namespace.deleteReplica_eq_ok_iff.1 (Namespace.change_eq_ok_iff.1 made)
      exact ⟨allowed, rows.1⟩
    | update =>
      obtain ⟨_, _, required, changed⟩ := Action.bind_eq_ok_iff.1 granted
      obtain ⟨allowed, rfl⟩ := required_iff_mayWriteFile.1 required
      obtain ⟨store, made, -⟩ := ask_eq_ok_iff.1 changed
      have rows := Namespace.updateReplica_eq_ok_iff.1 (Namespace.change_eq_ok_iff.1 made)
      exact ⟨allowed, rows.1⟩
  · rintro ⟨allowed, rows⟩
    have required := required_iff_mayWriteFile.2 ⟨allowed, rfl⟩
    cases change with
    | delete =>
      have made := Namespace.deleteReplica_eq_ok_iff.2 ⟨rows, rfl⟩
      exact ⟨(), _, Action.bind_eq_ok_iff.2 ⟨(), b, required,
        ask_eq_ok_iff.2 ⟨_, Namespace.change_eq_ok_iff.2 made, rfl⟩⟩⟩
    | update =>
      have made := Namespace.updateReplica_eq_ok_iff.2 ⟨rows, rfl⟩
      exact ⟨(), _, Action.bind_eq_ok_iff.2 ⟨(), b, required,
        ask_eq_ok_iff.2 ⟨_, Namespace.change_eq_ok_iff.2 made, rfl⟩⟩⟩

/-- A change goes through unguarded exactly if the record names another file than the row's own, one
that may be written while the row's own may not. -/
theorem unguarded_iff (change : RowChange) (record : Replica) (b : Browsing Namespace) :
    Unguarded change record b ↔
      ∃ row, b.store.replicas.get? record.id = some row ∧ record.file ≠ row.file ∧
        MayWriteFile b record.file ∧ ¬ MayWriteFile b row.file := by
  unfold Unguarded
  rw [succeeds_iff]
  constructor
  · rintro ⟨⟨allowed, -⟩, row, stored, forbidden⟩
    refine ⟨row, stored, ?_, allowed, forbidden⟩
    intro same
    rw [same] at allowed
    exact forbidden allowed
  · rintro ⟨row, stored, -, allowed, forbidden⟩
    exact ⟨⟨allowed, row, stored⟩, row, stored, forbidden⟩

def alice : SecurityContext :=
  ⟨⟨"alice", 1001, ∅⟩, [⟨"atlas", 200, ∅⟩], { clientName := "alice" }⟩

/-- A file of root's with one replica, and beside it a file of alice's. -/
def neighbours : Namespace :=
  Namespace.initial.run [
    .create { parent := 1, name := "f", stat := { mode := Mode.regular ||| 0o644 } },
    .create { parent := 1, name := "mine",
              stat := { mode := Mode.regular ||| 0o644, uid := 1001, gid := 200 } },
    .addReplica { file := 2, pool := "disk", server := "localhost", rfn := "localhost:srv/a/f" }]

/-- The owner of one file deletes the row of another by presenting the id of the row with the number
of the own file. -/
theorem row_of_neighbour_deleted :
    neighbours.Reachable ∧
      Unguarded .delete { id := 1, file := 3 } ⟨{ security := some alice }, neighbours⟩ := by
  refine ⟨Namespace.Reachable.initial.run (by decide +kernel), (unguarded_iff _ _ _).2 ?_⟩
  obtain ⟨row, stored⟩ : ∃ row, neighbours.replicas.get? 1 = some row :=
    Option.isSome_iff_exists.1 (by decide +kernel)
  have file : (neighbours.replicas.get? 1).map Replica.file = some 2 := by decide +kernel
  rw [stored, Option.map_some, Option.some.injEq] at file
  refine ⟨row, stored, ?_⟩
  rw [file]
  decide +kernel

end Stowage.ReplicaRights
