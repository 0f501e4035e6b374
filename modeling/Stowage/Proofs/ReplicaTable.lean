import Mathlib.Data.List.Induction
import Stowage.Proofs.NamespaceTree

/-! The rows of a replica table belong to files, and no two rows of one file share a physical name.
Registering a replica looks for both; replacing a record looks for neither. So the table is what it should
be after every request of a run exactly if no record that replaces another is misplaced: of a number that
no file has, or under a physical name that another row of the file has. Numbering needs no such care: rows
stand under their own ids, below the next one, and an id that is chosen for a row is new. -/
namespace Stowage.Namespace

variable {ns : Namespace}

/-- Every row is that of a file, and the only one of the file under its physical name. -/
structure RowsPlaced (ns : Namespace) : Prop where
  filed : ∀ {id : Int} {row : Replica}, ns.replicas.get? id = some row → ns.HasFile row.file
  apart : ∀ {id other : Int} {row twin : Replica}, ns.replicas.get? id = some row →
    ns.replicas.get? other = some twin → row.file = twin.file → row.rfn = twin.rfn → id = other

/-- Another row of the file that the record names has the physical name of the record. -/
def Shares (ns : Namespace) (record : Replica) : Prop :=
  ∃ id row, ns.replicas.get? id = some row ∧ id ≠ record.id ∧ row.file = record.file ∧
    row.rfn = record.rfn

/-- The record can replace one that is there, although it names no file or shares the physical name of
another row. -/
def Misplaces (ns : Namespace) (record : Replica) : Prop :=
  (∃ old, ns.replicas.get? record.id = some old) ∧ (¬ ns.HasFile record.file ∨ ns.Shares record)

/-- What was a file is one for as long as its entry is there. -/
theorem HasFile.after {ino : Nat} (file : ns.HasFile ino) (numbered : ns.Numbered) (r : InodeRequest)
    (held : ((ns.after r).entries.get? ino).isSome) : (ns.after r).HasFile ino := by
  obtain ⟨entry, there, plain⟩ := file
  cases treeStep_after ns r with
  | same entries => exact ⟨entry, by rw [entries, there], plain⟩
  | made _ created _ _ _ _ entries =>
    have below := numbered _ _ there
    exact ⟨entry, by rw [entries, Table.get?_insert, if_neg (by omega), there], plain⟩
  | stored place old new found entries _ type =>
    by_cases here : ino = place
    · subst here
      obtain rfl := Option.some.inj (found.symm.trans there)
      exact ⟨new, by rw [entries, Table.get?_insert, if_pos rfl], type.trans plain⟩
    · exact ⟨entry, by rw [entries, Table.get?_insert, if_neg here, there], plain⟩
  | erased gone _ _ _ _ entries =>
    by_cases here : ino = gone
    · simp [entries, Table.get?_erase, here] at held
    · exact ⟨entry, by rw [entries, Table.get?_erase, if_neg here, there], plain⟩

/-- Rows that were placed are placed where there are fewer of them and their files are still there. -/
theorem RowsPlaced.of_fewer {next : Namespace} (placed : ns.RowsPlaced)
    (fewer : ∀ {id : Int} {row : Replica}, next.replicas.get? id = some row →
      ns.replicas.get? id = some row)
    (files : ∀ {id : Int} {row : Replica}, next.replicas.get? id = some row →
      ns.HasFile row.file → next.HasFile row.file) : next.RowsPlaced where
  filed found := files found (placed.filed (fewer found))
  apart found twin := placed.apart (fewer found) (fewer twin)

/-- A row that is put into the table under its id, among rows that are placed, is placed exactly if it
names a file and no other row of the file has its physical name. -/
theorem RowsPlaced.insert_iff {next : Namespace} (placed : ns.RowsPlaced) (record : Replica)
    (rows : next.replicas = ns.replicas.insert record.id record) (entries : next.entries = ns.entries) :
    next.RowsPlaced ↔ ns.HasFile record.file ∧ ¬ ns.Shares record := by
  have look : ∀ id, next.replicas.get? id =
      if id = record.id then some record else ns.replicas.get? id := by
    intro id
    rw [rows, Table.get?_insert]
  have files : ∀ ino, next.HasFile ino ↔ ns.HasFile ino := by
    intro ino
    unfold HasFile
    rw [entries]
  have here : next.replicas.get? record.id = some record := by rw [look, if_pos rfl]
  constructor
  · intro sound
    refine ⟨(files _).1 (sound.filed here), ?_⟩
    rintro ⟨id, row, found, other, file, name⟩
    have kept : next.replicas.get? id = some row := by rw [look, if_neg other, found]
    exact other (sound.apart kept here file name)
  · rintro ⟨file, single⟩
    constructor
    · intro id row found
      rw [look] at found
      rw [files]
      by_cases new : id = record.id
      · rw [if_pos new] at found
        cases found
        exact file
      · rw [if_neg new] at found
        exact placed.filed found
    · intro id other row twin found met same name
      rw [look] at found met
      by_cases new : id = record.id <;> by_cases late : other = record.id
      · rw [new, late]
      · rw [if_pos new] at found
        rw [if_neg late] at met
        cases found
        exact absurd ⟨other, twin, met, late, same.symm, name.symm⟩ single
      · rw [if_neg new] at found
        rw [if_pos late] at met
        cases met
        exact absurd ⟨id, row, found, new, same, name⟩ single
      · rw [if_neg new] at found
        rw [if_neg late] at met
        exact placed.apart found met same name

/-- A record that replaces one that is there takes its place as it is. -/
theorem after_updateReplica {record old : Replica} (stored : ns.replicas.get? record.id = some old) :
    (ns.after (.updateReplica record)).replicas = ns.replicas.insert record.id record ∧
      (ns.after (.updateReplica record)).entries = ns.entries := by
  have made := updateReplica_eq_ok_iff.2 ⟨⟨old, stored⟩, rfl⟩
  have run : handler (.updateReplica record) ns = .ok () _ :=
    change_eq_ok_iff (f := (·.updateReplica record)).2 made
  unfold Namespace.after
  rw [Action.outcome_of_ok run]
  exact ⟨rfl, rfl⟩

/-- A request after which rows are no longer placed replaces a record. -/
theorem RowsPlaced.after (placed : ns.RowsPlaced) (sound : ns.RowsSound) (numbered : ns.Numbered)
    {r : InodeRequest} (other : ∀ record old, r = .updateReplica record →
      ns.replicas.get? record.id ≠ some old) : (ns.after r).RowsPlaced := by
  cases rowsStep_after ns r with
  | fewer rows _ held =>
    have ordered : (ns.after r).replicas.Ordered := sound.ordered.sublist rows
    apply placed.of_fewer
    · intro id row found
      have member := rows.subset ((Table.get?_eq_some_iff ordered).1 found)
      exact (Table.get?_eq_some_iff sound.ordered).2 member
    · intro id row found file
      have there : (ns.entries.get? row.file).isSome := by
        obtain ⟨entry, there, -⟩ := file
        simp [there]
      exact file.after numbered r (held _ (Table.mem_of_get? found) there)
  | added record _ file single rows _ entries =>
    apply (placed.insert_iff { record with id := ns.idFor record } rows entries).2
    refine ⟨file, ?_⟩
    rintro ⟨id, row, found, -, same, name⟩
    exact single row (List.mem_map_of_mem (Table.mem_of_get? found)) ⟨same, name⟩
  | updated record old asked stored => exact absurd stored (other record old asked)

/-- What a request does to a table whose rows are placed: they all are afterwards, unless the request
replaces a record by one that is misplaced. -/
theorem RowsPlaced.after_iff (placed : ns.RowsPlaced) (sound : ns.RowsSound) (numbered : ns.Numbered)
    (r : InodeRequest) :
    (ns.after r).RowsPlaced ↔ ∀ record, r = .updateReplica record → ¬ ns.Misplaces record := by
  constructor
  · rintro kept record rfl ⟨⟨old, stored⟩, fault⟩
    obtain ⟨rows, entries⟩ := after_updateReplica stored
    obtain ⟨file, single⟩ := (placed.insert_iff record rows entries).1 kept
    exact fault.elim (fun none_ => none_ file) single
  · intro clean
    by_cases replaces : ∃ record old, r = .updateReplica record ∧
        ns.replicas.get? record.id = some old
    · obtain ⟨record, old, rfl, stored⟩ := replaces
      have fit : ns.HasFile record.file ∧ ¬ ns.Shares record := by
        simpa [Misplaces, stored] using clean record rfl
      obtain ⟨rows, entries⟩ := after_updateReplica stored
      exact (placed.insert_iff record rows entries).2 fit
    · exact placed.after sound numbered fun record old asked stored =>
        replaces ⟨record, old, asked, stored⟩

theorem rowsPlaced_initial : RowsPlaced Namespace.initial where
  filed := nofun
  apart := nofun

/-- The next id gets no less. -/
theorem nextReplica_le_after (ns : Namespace) (r : InodeRequest) :
    ns.nextReplica ≤ (ns.after r).nextReplica := by
  cases rowsStep_after ns r <;> omega

theorem nextReplica_le_run (ns : Namespace) (requests : List InodeRequest) :
    ns.nextReplica ≤ (ns.run requests).nextReplica := by
  induction requests generalizing ns with
  | nil => exact Int.le_refl _
  | cons r rest ih => exact Int.le_trans (nextReplica_le_after ns r) (ih _)

/-- The rows are placed after every request of a run exactly if no request of the run replaces a record
by one that is misplaced. -/
theorem rowsPlaced_throughout_iff {requests : List InodeRequest} (admits : initial.Admits requests) :
    (∀ earlier later, requests = earlier ++ later → (initial.run earlier).RowsPlaced) ↔
      ∀ earlier record later, requests = earlier ++ .updateReplica record :: later →
        ¬ (initial.run earlier).Misplaces record := by
  have reached : ∀ {earlier later}, requests = earlier ++ later →
      (initial.run earlier).Reachable := by
    rintro earlier later rfl
    exact Reachable.initial.run (admits_append.1 admits).1
  constructor
  · intro placed earlier record later split
    have here := reached split
    have next := placed (earlier ++ [.updateReplica record]) later (by simp [split])
    rw [run_append] at next
    exact ((placed earlier _ split).after_iff here.rowsSound here.numbered _).1 next record rfl
  · intro clean earlier
    -- Along the run, from the front: what one request keeps is used at each of them.
    induction earlier using List.reverseRecOn with
    | nil => exact fun _ _ => rowsPlaced_initial
    | append_singleton earlier r ih =>
      intro later split
      have before : requests = earlier ++ r :: later := by simp [split]
      have here := reached before
      rw [run_append]
      apply ((ih _ before).after_iff here.rowsSound here.numbered r).2
      rintro record rfl
      exact clean earlier record later before

/-- Whatever requests came before, with ids that are words: each row stands under its own id, below the
next one, and an id that is chosen for a new row is one that no row had before. Rows belong to files, and no
two of one file share a physical name, throughout the run exactly if no request of it replaces a record by
one that is misplaced. -/
theorem integrity_iff_of_run {requests : List InodeRequest} (admits : initial.Admits requests) :
    let ns := initial.run requests
    (∀ id row, ns.replicas.get? id = some row → row.id = id ∧ id < ns.nextReplica) ∧
      (∀ record next, record.id = 0 → ns.addReplica record = .ok next →
        (∃ id, next.replicas.get? id = some { record with id } ∧
          ∀ earlier later, requests = earlier ++ later →
            (initial.run earlier).replicas.get? id = none)) ∧
      ((∀ earlier later, requests = earlier ++ later → (initial.run earlier).RowsPlaced) ↔
        ∀ earlier record later, requests = earlier ++ .updateReplica record :: later →
          ¬ (initial.run earlier).Misplaces record) := by
  intro ns
  have sound : ns.RowsSound := (Reachable.initial.run admits).rowsSound
  refine ⟨fun id row found => ⟨sound.keyed found, sound.below found⟩, ?_,
    rowsPlaced_throughout_iff admits⟩
  intro record next unnumbered added
  have chosen : ns.idFor record = ns.nextReplica := by simp [idFor, unnumbered]
  obtain ⟨-, -, -, rfl⟩ := addReplica_succeeds_iff.1 added
  refine ⟨ns.nextReplica, ?_, ?_⟩
  · simp [chosen, Table.get?_insert]
  · rintro earlier later rfl
    have onward : ns.nextReplica = ((initial.run earlier).run later).nextReplica :=
      congrArg nextReplica (run_append initial earlier later)
    have before := (Reachable.initial.run (admits_append.1 admits).1).rowsSound
    apply Option.eq_none_iff_forall_ne_some.2
    intro row found
    have below := before.below found
    have grown := nextReplica_le_run (initial.run earlier) later
    omega

/-- A file gets a replica, whose record is then replaced by one that names no file. -/
def straying : List InodeRequest :=
  [.create { parent := 1, name := "f", stat := { mode := Mode.regular } },
    .addReplica { file := 2, pool := "disk", server := "localhost", rfn := "localhost:srv/a/f" },
    .updateReplica { id := 1, file := 99, pool := "disk", server := "localhost",
                     rfn := "localhost:srv/a/f" }]

/-- The new record is misplaced, and so the row is one of no file in the end. -/
theorem row_of_no_file :
    initial.Admits straying ∧
      ¬ ∀ earlier later, straying = earlier ++ later → (initial.run earlier).RowsPlaced := by
  refine ⟨by decide +kernel, fun placed => ?_⟩
  have clean := (integrity_iff_of_run (by decide +kernel)).2.2.1 placed
  apply clean [_, _] _ [] rfl
  constructor
  · exact ⟨_, rfl⟩
  · left
    rintro ⟨file, there, -⟩
    cases there

end Stowage.Namespace
