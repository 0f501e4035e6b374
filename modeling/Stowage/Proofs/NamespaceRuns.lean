import Stowage.Namespace
import Stowage.Proofs.Actions

/-! Namespaces that a sequence of requests can lead to, and what holds of the replica table in all of
them: it is in order of the ids, every row stands under its own id, and the ids are signed words
below the next free one. -/
namespace Stowage

/-- A number that a signed 64-bit word can hold. -/
def IsWord (n : Int) : Prop :=
  -0x8000000000000000 ≤ n ∧ n < 0x8000000000000000

instance (n : Int) : Decidable (IsWord n) :=
  inferInstanceAs (Decidable (_ ∧ _))

/-- The ids in the records of a request are words. -/
def InodeRequest.Fits : InodeRequest → Prop
  | .addReplica record | .updateReplica record => IsWord record.id
  | _ => True

instance (r : InodeRequest) : Decidable r.Fits := by
  unfold InodeRequest.Fits
  split <;> infer_instance

/-- The request only looks. -/
def InodeRequest.looks : InodeRequest → Bool
  | .entry _ | .child _ _ | .stat _ | .statChild _ _ | .readDir _ | .replicas _ | .replica _ => true
  | .create _ | .unlink _ | .addReplica _ | .deleteReplica _ | .updateReplica _ | .setMode ..
  | .setSize _ _ => false

namespace Namespace

/-- The namespace after a request, which may have failed. -/
def after (ns : Namespace) (r : InodeRequest) : Namespace :=
  ((handler r).outcome ns).2

/-- The namespaces that requests lead to from the initial one. The counter of ids, a word itself,
bounds how many rows there can be. -/
inductive Reachable : Namespace → Prop where
  | initial : Reachable Namespace.initial
  | step {ns : Namespace} {r : InodeRequest} (reached : Reachable ns) (fits : r.Fits)
      (room : (ns.after r).nextReplica < 0x8000000000000000) : Reachable (ns.after r)

/-- The namespace after some requests, one after another. -/
def run (ns : Namespace) (requests : List InodeRequest) : Namespace :=
  requests.foldl Namespace.after ns

/-- Every request of the sequence is one that a reachable namespace can be asked. -/
def Admits (ns : Namespace) : List InodeRequest → Prop
  | [] => True
  | r :: rest => r.Fits ∧ (ns.after r).nextReplica < 0x8000000000000000 ∧ (ns.after r).Admits rest

instance decidableAdmits : (ns : Namespace) → (requests : List InodeRequest) →
    Decidable (ns.Admits requests)
  | _, [] => isTrue trivial
  | ns, r :: rest =>
    have := decidableAdmits (ns.after r) rest
    inferInstanceAs (Decidable (_ ∧ _ ∧ _))

theorem run_append (ns : Namespace) (earlier later : List InodeRequest) :
    ns.run (earlier ++ later) = (ns.run earlier).run later :=
  List.foldl_append

theorem admits_append {ns : Namespace} {earlier later : List InodeRequest} :
    ns.Admits (earlier ++ later) ↔ ns.Admits earlier ∧ (ns.run earlier).Admits later := by
  induction earlier generalizing ns with
  | nil => simp [Admits, run]
  | cons r rest ih =>
    simp only [List.cons_append, Admits, ih, and_assoc]
    rfl

theorem Reachable.run {ns : Namespace} (reached : ns.Reachable) {requests : List InodeRequest}
    (admits : ns.Admits requests) : (ns.run requests).Reachable := by
  induction requests generalizing ns with
  | nil => exact reached
  | cons r rest ih =>
    obtain ⟨fits, room, later⟩ := admits
    exact ih (reached.step fits room) later

/-- What the replica table is in every reachable namespace. -/
structure RowsSound (ns : Namespace) : Prop where
  ordered : ns.replicas.Ordered
  keyed : ∀ {id : Int} {row : Replica}, ns.replicas.get? id = some row → row.id = id
  words : ∀ {id : Int} {row : Replica}, ns.replicas.get? id = some row → IsWord id
  below : ∀ {id : Int} {row : Replica}, ns.replicas.get? id = some row → id < ns.nextReplica
  counting : 1 ≤ ns.nextReplica

theorem rowsSound_initial : RowsSound Namespace.initial where
  ordered := List.Pairwise.nil
  keyed := nofun
  words := nofun
  below := nofun
  counting := by decide

/-- Rows that go away leave a sound table. -/
theorem RowsSound.of_fewer {ns next : Namespace} (sound : ns.RowsSound)
    (ordered : next.replicas.Ordered)
    (fewer : ∀ {id : Int} {row : Replica}, next.replicas.get? id = some row →
      ns.replicas.get? id = some row)
    (counter : next.nextReplica = ns.nextReplica) : next.RowsSound where
  ordered := ordered
  keyed found := sound.keyed (fewer found)
  words found := sound.words (fewer found)
  below found := counter ▸ sound.below (fewer found)
  counting := counter ▸ sound.counting

/-- A row put under its own id keeps the table sound, if the counter stays above it. -/
theorem RowsSound.of_insert {ns next : Namespace} (sound : ns.RowsSound) (record : Replica)
    (rows : next.replicas = ns.replicas.insert record.id record) (word : IsWord record.id)
    (above : record.id < next.nextReplica) (counter : ns.nextReplica ≤ next.nextReplica) :
    next.RowsSound := by
  have look : ∀ id row, next.replicas.get? id = some row →
      (id = record.id ∧ row = record) ∨ ns.replicas.get? id = some row := by
    intro id row found
    rw [rows, Table.get?_insert] at found
    by_cases same : id = record.id
    · rw [if_pos same] at found
      cases found
      exact .inl ⟨same, rfl⟩
    · rw [if_neg same] at found
      exact .inr found
  constructor
  · rw [rows]
    exact Table.ordered_insert sound.ordered _ _
  · intro id row found
    rcases look id row found with ⟨rfl, rfl⟩ | old
    · rfl
    · exact sound.keyed old
  · intro id row found
    rcases look id row found with ⟨rfl, rfl⟩ | old
    · exact word
    · exact sound.words old
  · intro id row found
    rcases look id row found with ⟨rfl, rfl⟩ | old
    · exact above
    · exact Int.lt_of_lt_of_le (sound.below old) counter
  · exact Int.le_trans sound.counting counter

theorem reads_handler {r : InodeRequest} (looks : r.looks = true) : Action.Reads (handler r) := by
  cases r with
  | entry | child | stat | statChild | readDir | replicas | replica => exact Action.reads_query _
  | create | unlink | addReplica | deleteReplica | updateReplica | setMode | setSize => cases looks

theorem handler_failsClean (r : InodeRequest) : Action.FailsClean (handler r) := by
  cases r with
  | entry | child | stat | statChild | readDir | replicas | replica =>
    exact (reads_handler rfl).failsClean
  | create | unlink | addReplica | deleteReplica | updateReplica | setMode | setSize =>
    exact Action.failsClean_update _

/-- An entry is made in a directory that is there, under a name that may be given and is free. -/
theorem create_eq_ok_iff {ns next : Namespace} {template created : Entry} :
    ns.create template = .ok (created, next) ↔
      (∃ parent, ns.entries.get? template.parent = some parent ∧ parent.stat.isDirectory = true) ∧
        ¬ (template.name = "" ∨ '/' ∈ template.name.toList) ∧
        ns.names.get? ⟨template.parent, template.name⟩ = none ∧
        created = { template with
          stat := { template.stat with ino := ns.nextIno, size := 0, nlink := 1 } } ∧
        next = { ns with
          entries := ns.entries.insert ns.nextIno created
          names := ns.names.insert ⟨template.parent, template.name⟩ ns.nextIno
          nextIno := ns.nextIno + 1 } := by
  unfold create
  simp only [Error.bind_eq_ok_iff, Error.guarded_eq_ok_iff, entry_eq_ok_iff, Decidable.not_not]
  constructor
  · rintro ⟨parent, above, directory, proper, free, made⟩
    cases made
    exact ⟨⟨parent, above, directory⟩, proper, by simpa [Table.contains] using free, rfl, rfl⟩
  · rintro ⟨⟨parent, above, directory⟩, proper, free, rfl, rfl⟩
    exact ⟨parent, above, directory, proper, by simp [Table.contains, free], rfl⟩

theorem create_eq_ok {ns next : Namespace} {template created : Entry}
    (made : ns.create template = .ok (created, next)) :
    ns.names.get? ⟨template.parent, template.name⟩ = none ∧
      created = { template with
        stat := { template.stat with ino := ns.nextIno, size := 0, nlink := 1 } } ∧
      next = { ns with
        entries := ns.entries.insert ns.nextIno created
        names := ns.names.insert ⟨template.parent, template.name⟩ ns.nextIno
        nextIno := ns.nextIno + 1 } :=
  (create_eq_ok_iff.1 made).2.2

/-- What is unlinked is not the root and, if a directory, empty. It goes with its name and its
replicas. -/
theorem unlink_eq_ok_iff {ns next : Namespace} {ino : Nat} :
    ns.unlink ino = .ok next ↔
      ino ≠ rootIno ∧ ∃ entry, ns.entries.get? ino = some entry ∧
        ¬ (entry.stat.isDirectory = true ∧ ns.childrenOf ino ≠ []) ∧
        next = { ns with
          entries := ns.entries.erase ino
          names := ns.names.erase ⟨entry.parent, entry.name⟩
          replicas := ns.replicas.filterValues fun r => r.file ≠ ino } := by
  unfold unlink
  simp only [Error.bind_eq_ok_iff, Error.guarded_eq_ok_iff, entry_eq_ok_iff]
  constructor
  · rintro ⟨other, entry, stored, empty, made⟩
    cases made
    exact ⟨other, entry, stored, empty, rfl⟩
  · rintro ⟨other, entry, stored, empty, rfl⟩
    exact ⟨other, entry, stored, empty, rfl⟩

/-- An entry that is unlinked goes with its name and its replicas. -/
theorem unlink_eq_ok {ns next : Namespace} {ino : Nat} (made : ns.unlink ino = .ok next) :
    ∃ entry, ns.entry ino = .ok entry ∧
      next = { ns with
        entries := ns.entries.erase ino
        names := ns.names.erase ⟨entry.parent, entry.name⟩
        replicas := ns.replicas.filterValues fun r => r.file ≠ ino } := by
  obtain ⟨-, entry, stored, -, same⟩ := unlink_eq_ok_iff.1 made
  exact ⟨entry, entry_eq_ok_iff.2 stored, same⟩

/-- The id under which a record is registered. -/
def idFor (ns : Namespace) (record : Replica) : Int :=
  if record.id = 0 then ns.nextReplica else record.id

/-- The number is that of an entry which is not a directory. -/
def HasFile (ns : Namespace) (ino : Nat) : Prop :=
  ∃ file, ns.entries.get? ino = some file ∧ file.stat.isDirectory = false

/-- A file takes a replica under a physical name that it has no replica under, with an id that no row
has. -/
theorem addReplica_succeeds_iff {ns next : Namespace} {record : Replica} :
    ns.addReplica record = .ok next ↔
      ns.HasFile record.file ∧
        (∀ row ∈ ns.replicas.values, ¬ (row.file = record.file ∧ row.rfn = record.rfn)) ∧
        (record.id ≠ 0 → ns.replicas.get? record.id = none) ∧
        next = { ns with
          replicas := ns.replicas.insert (ns.idFor record) { record with id := ns.idFor record }
          nextReplica := max ns.nextReplica (ns.idFor record + 1) } := by
  unfold addReplica
  simp only [Error.bind_eq_ok_iff, Error.guarded_eq_ok_iff, entry_eq_ok_iff]
  constructor
  · rintro ⟨file, there, plain, single, unused, made⟩
    cases made
    refine ⟨⟨file, there, by simpa using plain⟩, by simpa using single, ?_, rfl⟩
    simpa [Table.contains] using unused
  · rintro ⟨⟨file, there, plain⟩, single, unused, rfl⟩
    refine ⟨file, there, by simp [plain], by simpa using single, ?_, rfl⟩
    simpa [Table.contains] using unused

/-- What a request can do to the replica table, with what it has looked at: rows go away, and what stays
keeps its entry; a row is added to a file; or a row is put in the place of the one with its id. -/
inductive RowsStep (ns : Namespace) (r : InodeRequest) (next : Namespace) : Prop where
  | fewer (rows : List.Sublist next.replicas.entries ns.replicas.entries)
      (counter : next.nextReplica = ns.nextReplica)
      (held : ∀ pair ∈ next.replicas.entries, (ns.entries.get? pair.2.file).isSome →
        (next.entries.get? pair.2.file).isSome)
  | added (record : Replica) (asked : r = .addReplica record) (file : ns.HasFile record.file)
      (single : ∀ row ∈ ns.replicas.values, ¬ (row.file = record.file ∧ row.rfn = record.rfn))
      (rows : next.replicas =
        ns.replicas.insert (ns.idFor record) { record with id := ns.idFor record })
      (counter : next.nextReplica = max ns.nextReplica (ns.idFor record + 1))
      (entries : next.entries = ns.entries)
  | updated (record old : Replica) (asked : r = .updateReplica record)
      (stored : ns.replicas.get? record.id = some old)
      (rows : next.replicas = ns.replicas.insert record.id record)
      (counter : next.nextReplica = ns.nextReplica) (entries : next.entries = ns.entries)

/-- A request that leaves the rows alone takes no entry away. -/
theorem RowsStep.of_same {ns next : Namespace} {r : InodeRequest} (rows : next.replicas = ns.replicas)
    (counter : next.nextReplica = ns.nextReplica)
    (held : ∀ ino, (ns.entries.get? ino).isSome → (next.entries.get? ino).isSome) :
    RowsStep ns r next :=
  .fewer (rows ▸ List.Sublist.refl _) counter fun pair _ => held pair.2.file

theorem rowsStep_after (ns : Namespace) (r : InodeRequest) : RowsStep ns r (ns.after r) := by
  have put : ∀ (number ino : Nat) (new : Entry), (ns.entries.get? ino).isSome →
      ((ns.entries.insert number new).get? ino).isSome := by
    intro number ino new there
    rw [Table.get?_insert]
    split
    · rfl
    · exact there
  unfold Namespace.after
  cases run : handler r ns with
  | error e next =>
    rw [Action.outcome_of_error run, handler_failsClean r _ _ _ run]
    exact .of_same rfl rfl fun _ there => there
  | ok answer next =>
    rw [Action.outcome_of_ok run]
    cases r with
    | entry | child | stat | statChild | readDir | replicas | replica =>
      rw [(reads_handler rfl).of_ok run]
      exact .of_same rfl rfl fun _ there => there
    | create template =>
      have made : ns.create template = .ok (answer, next) :=
        Action.update_eq_ok (f := (Namespace.create · template)) run
      obtain ⟨-, -, rfl⟩ := create_eq_ok made
      exact .of_same rfl rfl fun ino => put _ ino _
    | unlink ino =>
      obtain ⟨entry, -, rfl⟩ := unlink_eq_ok (change_eq_ok_iff.1 run)
      refine .fewer List.filter_sublist rfl fun pair member there => ?_
      have other : pair.2.file ≠ ino := of_decide_eq_true (List.mem_filter.1 member).2
      rw [Table.get?_erase, if_neg other]
      exact there
    | setMode ino uid gid mode acl =>
      obtain ⟨entry, -, made⟩ := Error.bind_eq_ok_iff.1 (change_eq_ok_iff.1 run)
      obtain rfl := Except.ok.inj made
      exact .of_same rfl rfl fun number => put ino number _
    | setSize ino size =>
      obtain ⟨entry, -, made⟩ := Error.bind_eq_ok_iff.1 (change_eq_ok_iff.1 run)
      obtain rfl := Except.ok.inj made
      exact .of_same rfl rfl fun number => put ino number _
    | deleteReplica record =>
      obtain ⟨-, rfl⟩ := deleteReplica_eq_ok_iff.1 (change_eq_ok_iff.1 run)
      exact .fewer List.filter_sublist rfl fun _ _ there => there
    | updateReplica record =>
      obtain ⟨⟨old, stored⟩, rfl⟩ := updateReplica_eq_ok_iff.1 (change_eq_ok_iff.1 run)
      exact .updated record old rfl stored rfl rfl rfl
    | addReplica record =>
      obtain ⟨file, single, -, rfl⟩ := addReplica_succeeds_iff.1 (change_eq_ok_iff.1 run)
      exact .added record rfl file single rfl rfl rfl

/-- Every request keeps the replica table sound. -/
theorem RowsSound.after {ns : Namespace} (sound : ns.RowsSound) {r : InodeRequest} (fits : r.Fits)
    (room : (ns.after r).nextReplica < 0x8000000000000000) : (ns.after r).RowsSound := by
  cases rowsStep_after ns r with
  | fewer rows counter =>
    have ordered : (ns.after r).replicas.Ordered := sound.ordered.sublist rows
    refine sound.of_fewer ordered (fun found => ?_) counter
    have member := rows.subset ((Table.get?_eq_some_iff ordered).1 found)
    exact (Table.get?_eq_some_iff sound.ordered).2 member
  | updated record old asked stored rows counter =>
    subst asked
    exact sound.of_insert record rows fits (counter ▸ sound.below stored) (Int.le_of_eq counter.symm)
  | added record asked _ _ rows counter =>
    subst asked
    have least := sound.counting
    have above : ns.idFor record < (ns.after (.addReplica record)).nextReplica := by omega
    have word : IsWord (ns.idFor record) := by
      refine ⟨?_, Int.lt_trans above room⟩
      unfold idFor
      split
      · omega
      · exact fits.1
    exact sound.of_insert { record with id := ns.idFor record } rows word above (by omega)

/-- The replica table of every reachable namespace is sound. -/
theorem Reachable.rowsSound {ns : Namespace} (reachable : ns.Reachable) : ns.RowsSound := by
  induction reachable with
  | initial => exact rowsSound_initial
  | step reached fits room ih => exact ih.after fits room

/-- Every entry stands under its own number. -/
def EntriesKeyed (ns : Namespace) : Prop :=
  ∀ (ino : Nat) (entry : Entry), ns.entries.get? ino = some entry → entry.stat.ino = ino

theorem entriesKeyed_initial : EntriesKeyed Namespace.initial := by
  intro ino entry found
  have here := Table.mem_of_get? found
  rcases List.mem_cons.1 here with same | none
  · cases same
    rfl
  · cases none

/-- What a request can do to entries and names: nothing, put a new entry under the next number and its
name, put another entry in the place of one with its name, or take an entry and its name away. -/
inductive EntriesStep (ns next : Namespace) : Prop where
  | same (entries : next.entries = ns.entries) (names : next.names = ns.names)
      (counter : next.nextIno = ns.nextIno)
  | made (created : Entry) (number : created.stat.ino = ns.nextIno)
      (entries : next.entries = ns.entries.insert ns.nextIno created)
      (names : next.names = ns.names.insert ⟨created.parent, created.name⟩ ns.nextIno)
      (counter : next.nextIno = ns.nextIno + 1)
  | stored (ino : Nat) (old new : Entry) (there : ns.entries.get? ino = some old)
      (entries : next.entries = ns.entries.insert ino new) (number : new.stat.ino = old.stat.ino)
      (place : new.parent = old.parent ∧ new.name = old.name) (names : next.names = ns.names)
      (counter : next.nextIno = ns.nextIno)
  | erased (ino : Nat) (old : Entry) (there : ns.entries.get? ino = some old)
      (entries : next.entries = ns.entries.erase ino)
      (names : next.names = ns.names.erase ⟨old.parent, old.name⟩)
      (counter : next.nextIno = ns.nextIno)

/-- What a request can do to the tree, with what it has looked at: a new entry comes into a directory
under a free name, an entry that is replaced stays of its type, and what is taken away is not the root
and, if a directory, has no children. -/
inductive TreeStep (ns next : Namespace) : Prop where
  | same (entries : next.entries = ns.entries) (names : next.names = ns.names)
      (counter : next.nextIno = ns.nextIno)
  | made (parent created : Entry) (above : ns.entries.get? created.parent = some parent)
      (directory : parent.stat.isDirectory = true)
      (free : ns.names.get? ⟨created.parent, created.name⟩ = none)
      (number : created.stat.ino = ns.nextIno)
      (entries : next.entries = ns.entries.insert ns.nextIno created)
      (names : next.names = ns.names.insert ⟨created.parent, created.name⟩ ns.nextIno)
      (counter : next.nextIno = ns.nextIno + 1)
  | stored (ino : Nat) (old new : Entry) (there : ns.entries.get? ino = some old)
      (entries : next.entries = ns.entries.insert ino new) (number : new.stat.ino = old.stat.ino)
      (type : new.stat.isDirectory = old.stat.isDirectory)
      (place : new.parent = old.parent ∧ new.name = old.name) (names : next.names = ns.names)
      (counter : next.nextIno = ns.nextIno)
  | erased (ino : Nat) (old : Entry) (there : ns.entries.get? ino = some old)
      (other : ino ≠ rootIno) (empty : old.stat.isDirectory = true → ns.childrenOf ino = [])
      (entries : next.entries = ns.entries.erase ino)
      (names : next.names = ns.names.erase ⟨old.parent, old.name⟩)
      (counter : next.nextIno = ns.nextIno)

theorem treeStep_after (ns : Namespace) (r : InodeRequest) : TreeStep ns (ns.after r) := by
  unfold Namespace.after
  cases run : handler r ns with
  | error e next =>
    rw [Action.outcome_of_error run, handler_failsClean r _ _ _ run]
    exact .same rfl rfl rfl
  | ok answer next =>
    rw [Action.outcome_of_ok run]
    cases r with
    | entry | child | stat | statChild | readDir | replicas | replica =>
      rw [(reads_handler rfl).of_ok run]
      exact .same rfl rfl rfl
    | create template =>
      have made : ns.create template = .ok (answer, next) :=
        Action.update_eq_ok (f := (Namespace.create · template)) run
      obtain ⟨⟨parent, above, directory⟩, -, free, rfl, rfl⟩ := create_eq_ok_iff.1 made
      exact .made parent { template with
        stat := { template.stat with ino := ns.nextIno, size := 0, nlink := 1 } }
        above directory free rfl rfl rfl rfl
    | unlink ino =>
      obtain ⟨other, entry, stored, empty, rfl⟩ := unlink_eq_ok_iff.1 (change_eq_ok_iff.1 run)
      exact .erased ino entry stored other
        (fun directory => Decidable.byContradiction fun full => empty ⟨directory, full⟩) rfl rfl rfl
    | setMode ino uid gid mode acl =>
      obtain ⟨entry, stored, made⟩ := Error.bind_eq_ok_iff.1 (change_eq_ok_iff.1 run)
      obtain rfl := Except.ok.inj made
      exact .stored ino entry _ (entry_eq_ok_iff.1 stored) rfl rfl
        (Mode.isDirectory_replaced entry.stat.mode mode) ⟨rfl, rfl⟩ rfl rfl
    | setSize ino size =>
      obtain ⟨entry, stored, made⟩ := Error.bind_eq_ok_iff.1 (change_eq_ok_iff.1 run)
      obtain rfl := Except.ok.inj made
      exact .stored ino entry _ (entry_eq_ok_iff.1 stored) rfl rfl rfl ⟨rfl, rfl⟩ rfl rfl
    | deleteReplica record =>
      obtain ⟨-, rfl⟩ := deleteReplica_eq_ok_iff.1 (change_eq_ok_iff.1 run)
      exact .same rfl rfl rfl
    | updateReplica record =>
      obtain ⟨-, rfl⟩ := updateReplica_eq_ok_iff.1 (change_eq_ok_iff.1 run)
      exact .same rfl rfl rfl
    | addReplica record =>
      obtain ⟨-, -, -, rfl⟩ := addReplica_succeeds_iff.1 (change_eq_ok_iff.1 run)
      exact .same rfl rfl rfl

theorem entriesStep_after (ns : Namespace) (r : InodeRequest) : EntriesStep ns (ns.after r) := by
  cases treeStep_after ns r with
  | same entries names counter => exact .same entries names counter
  | made _ created _ _ _ number entries names counter =>
    exact .made created number entries names counter
  | stored ino old new there entries number _ place names counter =>
    exact .stored ino old new there entries number place names counter
  | erased ino old there _ _ entries names counter =>
    exact .erased ino old there entries names counter

/-- Every request keeps entries under their own numbers. -/
theorem EntriesKeyed.after {ns : Namespace} (keyed : ns.EntriesKeyed) (r : InodeRequest) :
    (ns.after r).EntriesKeyed := by
  have inserted : ∀ (number : Nat) (new : Entry), new.stat.ino = number →
      (ns.after r).entries = ns.entries.insert number new → (ns.after r).EntriesKeyed := by
    intro number new same entries ino entry found
    rw [entries, Table.get?_insert] at found
    by_cases here : ino = number
    · rw [if_pos here] at found
      cases found
      exact same.trans here.symm
    · rw [if_neg here] at found
      exact keyed ino entry found
  cases entriesStep_after ns r with
  | same entries =>
    intro ino entry found
    rw [entries] at found
    exact keyed ino entry found
  | made created number entries => exact inserted _ created number entries
  | stored ino old new there entries number =>
    exact inserted ino new (number.trans (keyed ino old there)) entries
  | erased gone _ _ entries =>
    intro ino entry found
    rw [entries, Table.get?_erase] at found
    split at found
    · cases found
    · exact keyed ino entry found

/-- Every entry has a number that was given out. -/
def Numbered (ns : Namespace) : Prop :=
  ∀ (ino : Nat) (entry : Entry), ns.entries.get? ino = some entry → ino < ns.nextIno

theorem numbered_initial : Numbered Namespace.initial := by
  intro ino entry found
  obtain ⟨rfl, -⟩ := Prod.mk.inj (List.mem_singleton.1 (Table.mem_of_get? found))
  decide

/-- Every request keeps to numbers that were given out. -/
theorem Numbered.after {ns : Namespace} (numbered : ns.Numbered) (r : InodeRequest) :
    (ns.after r).Numbered := by
  intro ino entry found
  cases entriesStep_after ns r with
  | same entries _ counter =>
    rw [entries] at found
    rw [counter]
    exact numbered ino entry found
  | made created number entries _ counter =>
    rw [entries, Table.get?_insert] at found
    rw [counter]
    by_cases here : ino = ns.nextIno
    · omega
    · rw [if_neg here] at found
      have below := numbered ino entry found
      omega
  | stored place old new there entries _ _ _ counter =>
    rw [entries, Table.get?_insert] at found
    rw [counter]
    by_cases here : ino = place
    · rw [here]
      exact numbered place old there
    · rw [if_neg here] at found
      exact numbered ino entry found
  | erased gone _ _ entries _ counter =>
    rw [entries, Table.get?_erase] at found
    rw [counter]
    split at found
    · cases found
    · exact numbered ino entry found

theorem Reachable.entriesKeyed {ns : Namespace} (reachable : ns.Reachable) : ns.EntriesKeyed := by
  induction reachable with
  | initial => exact entriesKeyed_initial
  | step reached fits room ih => exact ih.after _

/-- Every name is borne by the entry that it leads to. -/
def Named (ns : Namespace) : Prop :=
  ∀ (key : NameKey) (ino : Nat), ns.names.get? key = some ino →
    ∃ entry, ns.entries.get? ino = some entry ∧ key = ⟨entry.parent, entry.name⟩

theorem named_initial : Named Namespace.initial := by
  intro key ino found
  obtain ⟨rfl, rfl⟩ := Prod.mk.inj (List.mem_singleton.1 (Table.mem_of_get? found))
  exact ⟨rootEntry, rfl, rfl⟩

/-- Every request keeps names with the entries that bear them. -/
theorem Named.after {ns : Namespace} (named : ns.Named) (numbered : ns.Numbered)
    (r : InodeRequest) : (ns.after r).Named := by
  intro key ino found
  cases entriesStep_after ns r with
  | same entries names =>
    rw [names] at found
    rw [entries]
    exact named key ino found
  | made created number entries names =>
    rw [names, Table.get?_insert] at found
    rw [entries, Table.get?_insert]
    by_cases here : key = ⟨created.parent, created.name⟩
    · rw [if_pos here] at found
      cases found
      exact ⟨created, by simp, here⟩
    · rw [if_neg here] at found
      obtain ⟨entry, stored, bears⟩ := named key ino found
      have below := numbered ino entry stored
      have other : ino ≠ ns.nextIno := by omega
      exact ⟨entry, by rw [if_neg other, stored], bears⟩
  | stored place old new there entries _ same names =>
    rw [names] at found
    rw [entries, Table.get?_insert]
    obtain ⟨entry, stored, bears⟩ := named key ino found
    by_cases here : ino = place
    · subst here
      obtain rfl := Option.some.inj (stored.symm.trans there)
      exact ⟨new, by simp, by rw [bears, same.1, same.2]⟩
    · exact ⟨entry, by rw [if_neg here, stored], bears⟩
  | erased gone old there entries names =>
    rw [names, Table.get?_erase] at found
    rw [entries, Table.get?_erase]
    split at found
    · cases found
    · rename_i other
      obtain ⟨entry, stored, bears⟩ := named key ino found
      have kept : ino ≠ gone := by
        rintro rfl
        obtain rfl := Option.some.inj (stored.symm.trans there)
        exact other bears
      exact ⟨entry, by rw [if_neg kept, stored], bears⟩

theorem Reachable.numbered {ns : Namespace} (reachable : ns.Reachable) : ns.Numbered := by
  induction reachable with
  | initial => exact numbered_initial
  | step reached fits room ih => exact ih.after _

theorem Reachable.named {ns : Namespace} (reachable : ns.Reachable) : ns.Named := by
  induction reachable with
  | initial => exact named_initial
  | step reached fits room ih => exact ih.after reached.numbered _

end Namespace
end Stowage
