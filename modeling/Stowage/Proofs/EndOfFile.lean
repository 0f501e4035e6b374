import Stowage.Disk.LocalFiles
import Stowage.Proofs.Actions

/-! The flag for the end of a file. Handles share the files of a machine, and what one of them writes the others
find there. A read that finds nothing sets the flag of its handle, and only moving the handle clears it, so a
file that grows under the handle leaves the flag behind: the handle reads on and says still that it is at the end.
After every read the flag is right, unless the file was written through another handle since the end was found
there, and the handle was not moved in between. The induction is on what has happened, the latest first, and
carries that a handle which has found the end stays behind it. -/
namespace Stowage

/-! ### Bytes and handles -/

namespace FileTree

variable {t u : FileTree}

theorem bytes_setBytes (t : FileTree) (file other : Nat) (bytes : List UInt8) :
    (t.setBytes file bytes).bytes other = if other = file then bytes else t.bytes other := by
  unfold FileTree.bytes setBytes
  rw [Table.get?_insert]
  split <;> rfl

/-- No file of the one tree has more bytes in the other. -/
def Shrinks (t u : FileTree) : Prop :=
  ∀ id, (u.bytes id).length ≤ (t.bytes id).length

theorem Shrinks.refl (t : FileTree) : t.Shrinks t := fun _ => Nat.le_refl _

theorem Shrinks.trans {v : FileTree} (first : t.Shrinks u) (second : u.Shrinks v) : t.Shrinks v :=
  fun id => Nat.le_trans (second id) (first id)

theorem shrinks_of_contents (same : u.contents = t.contents) : t.Shrinks u := by
  intro id
  have bytes : u.bytes id = t.bytes id := by
    unfold FileTree.bytes
    rw [same]
  exact Nat.le_of_eq (congrArg List.length bytes)

theorem shrinks_emptied (t : FileTree) (id : Nat) : t.Shrinks (t.setBytes id []) := by
  intro other
  rw [bytes_setBytes]
  split <;> simp

theorem contents_makeDirectory {name : String} (made : t.makeDirectory name = .ok u) :
    u.contents = t.contents := by
  obtain ⟨path, -, walked⟩ := Error.bind_eq_ok_iff.1 made
  obtain ⟨dir, -, ended⟩ := Error.bind_eq_ok_iff.1 walked
  cases last : FilePath.lastName? path with
  | none =>
    rw [last] at ended
    cases ended
  | some part =>
    rw [last] at ended
    dsimp only at ended
    split at ended
    · cases ended
    · cases ended
      rfl
    · cases ended

theorem contents_makeDirectories (absolute : Bool) (parts : List String) (t : FileTree) :
    (makeDirectories absolute parts t).2.contents = t.contents := by
  induction parts generalizing t with
  | nil => rfl
  | cons last outer ih =>
    unfold makeDirectories
    dsimp only
    split
    · rename_i made
      exact contents_makeDirectory made
    · have before := ih t
      split
      · rename_i made
        rwa [made] at before
      · rename_i between made
        rw [made] at before
        split
        · rename_i again
          exact (contents_makeDirectory again).trans before
        · exact before
    · rfl

/-- Opening a file to write empties it at the most. -/
theorem shrinks_openToWrite {name : String} {create truncate : Bool} {id : Nat}
    (opened : t.openToWrite name create truncate = .ok (id, u)) : t.Shrinks u := by
  unfold openToWrite at opened
  cases create with
  | true =>
    obtain ⟨path, -, walked⟩ := Error.bind_eq_ok_iff.1 opened
    obtain ⟨dir, -, ended⟩ := Error.bind_eq_ok_iff.1 walked
    cases last : FilePath.lastName? path with
    | none =>
      rw [last] at ended
      cases ended
    | some part =>
      rw [last] at ended
      obtain ⟨-, stepped⟩ := Error.guarded_eq_ok_iff.1 ended
      split at stepped
      · cases stepped
      · cases stepped
        cases truncate with
        | true => exact shrinks_emptied t id
        | false => exact .refl t
      · cases stepped
        exact shrinks_emptied t t.nextFile
      · cases stepped
  | false =>
    obtain ⟨node, -, found⟩ := Error.bind_eq_ok_iff.1 opened
    cases node with
    | directory => cases found
    | file there =>
      cases found
      cases truncate with
      | true => exact shrinks_emptied t id
      | false => exact .refl t

end FileTree

/-- A handle that was opened just now is at the start of its file and has found no end. -/
theorem LocalFiles.openFile_eq_ok {file : String} {flags : OpenFlags} {t u : FileTree} {h : Handle}
    (opened : openFile file flags t = .ok h u) : h.position = 0 ∧ h.atEnd = false ∧ t.Shrinks u := by
  unfold openFile at opened
  split at opened
  · extract_lets opens at opened
    have ended : ∀ made, t.Shrinks made → opens () made = .ok h u →
        h.position = 0 ∧ h.atEnd = false ∧ t.Shrinks u := by
      intro made before done
      obtain ⟨⟨id, files⟩, found, returned⟩ := Error.bind_eq_ok_iff.1 (Action.update_eq_ok done)
      cases returned
      cases outcome : made.openToWrite file flags.create flags.truncate with
      | error fault =>
        rw [outcome] at found
        cases found
      | ok there =>
        rw [outcome] at found
        cases found
        exact ⟨rfl, rfl, before.trans (FileTree.shrinks_openToWrite outcome)⟩
    cases parent : FilePath.parentOf file with
    | none =>
      rw [parent] at opened
      exact ended t (.refl t) opened
    | some holder =>
      obtain ⟨absolute, parts⟩ := holder
      rw [parent] at opened
      obtain ⟨_, made, making, later⟩ := Action.bind_eq_ok_iff.1 opened
      have same := FileTree.contents_makeDirectories absolute parts.reverse t
      split at making
      · rename_i walked
        cases making
        rw [walked] at same
        exact ended made (FileTree.shrinks_of_contents same) later
      · cases making
  · obtain ⟨read, rfl⟩ := Action.eq_ok_of_ofExcept opened
    obtain ⟨node, -, returned⟩ := Error.bind_eq_ok_iff.1 read
    cases returned
    exact ⟨rfl, rfl, .refl _⟩

namespace Handle

variable {h h' : Handle} {t u : FileTree} {count n : Nat} {bytes data : List UInt8}

theorem read_eq_ok (done : h.read t count = .ok (bytes, h')) :
    ∃ id, h.node = .file id ∧ bytes = ((t.bytes id).drop h.position).take count ∧
      h' = { h with
        position := h.position + bytes.length
        atEnd := if bytes = [] ∧ count ≠ 0 then true else h.atEnd } := by
  unfold read at done
  split at done
  · cases done
  · split at done
    · cases done
    · rename_i id file
      cases done
      exact ⟨id, file, rfl, rfl⟩

theorem length_splice (old : List UInt8) (position : Nat) (data : List UInt8) :
    (splice old position data).length = max old.length (position + data.length) := by
  simp only [splice, List.length_append, List.length_take, List.length_replicate, List.length_drop]
  omega

/-- A write moves the handle behind what it writes, and touches no other file. -/
theorem write_eq_ok (done : h.write t data = .ok (n, h', u)) :
    ∃ id, h.node = .file id ∧ h' = { h with position := h.position + data.length } ∧
      (∀ other, other ≠ id → u.bytes other = t.bytes other) ∧
      (u.bytes id).length ≤ max (t.bytes id).length h'.position := by
  unfold write at done
  split at done
  · cases done
  · split at done
    · rename_i id _ file
      split at done
      · rename_i nothing
        cases done
        subst nothing
        exact ⟨id, file, rfl, fun _ _ => rfl, Nat.le_max_left _ _⟩
      · cases done
        refine ⟨id, file, rfl, fun other apart => ?_, ?_⟩
        · rw [FileTree.bytes_setBytes, if_neg apart]
        · apply Nat.le_of_eq
          rw [FileTree.bytes_setBytes, if_pos rfl, length_splice]
    · cases done

theorem seek_eq_ok {offset : Int} {origin : SeekOrigin} (done : h.seek t offset origin = .ok (n, h')) :
    h' = { h with position := n, atEnd := false } := by
  unfold seek at done
  split at done
  · cases done
  · split at done
    · cases done
    · cases origin <;>
      · dsimp only at done
        split at done
        · cases done
        · cases done
          rfl

/-- A read that asks for something and finds nothing sets the flag; any other leaves it. -/
theorem atEnd_of_read (done : h.read t count = .ok (bytes, h')) :
    h'.atEnd = true ↔ (bytes = [] ∧ count ≠ 0) ∨ h.atEnd = true := by
  obtain ⟨_, -, -, rfl⟩ := read_eq_ok done
  by_cases nothing : bytes = [] ∧ count ≠ 0
  · simp only [nothing, and_self, not_false_eq_true, ne_eq, if_true, true_or]
  · simp only [nothing, if_false, false_or]

end Handle

/-! ### Handles that share files -/

/-- The files of a machine, and the handles there that were opened so far. -/
structure OpenFiles where
  files : FileTree
  handle : Nat → Option Handle

/-- What was done through a handle. It is known by its number, and a transfer by the number of the file, too. -/
inductive FileEvent where
  | opened (handle : Nat)
  | read (handle file count : Nat) (bytes : List UInt8)
  | written (handle file : Nat) (data : List UInt8)
  | moved (handle position : Nat)
  | closed (handle : Nat)

namespace OpenFiles

/-- The files are those, and the handle has come to this. -/
def put (o : OpenFiles) (files : FileTree) (i : Nat) (h : Handle) : OpenFiles :=
  ⟨files, fun j => if j = i then some h else o.handle j⟩

/-- One step of one of the handles. What fails, and what tells or flushes, leaves no handle that differs. -/
inductive Step (o : OpenFiles) : FileEvent → OpenFiles → Prop
  | opened {i : Nat} {file : String} {flags : OpenFlags} {h : Handle} {files : FileTree}
      (done : LocalFiles.openFile file flags o.files = .ok h files) : Step o (.opened i) (o.put files i h)
  | read {i id count : Nat} {bytes : List UInt8} {h h' : Handle} (held : o.handle i = some h)
      (file : h.node = .file id) (done : h.read o.files count = .ok (bytes, h')) :
      Step o (.read i id count bytes) (o.put o.files i h')
  | written {i id n : Nat} {data : List UInt8} {h h' : Handle} {files : FileTree} (held : o.handle i = some h)
      (file : h.node = .file id) (done : h.write o.files data = .ok (n, h', files)) :
      Step o (.written i id data) (o.put files i h')
  | moved {i position : Nat} {offset : Int} {origin : SeekOrigin} {h h' : Handle} (held : o.handle i = some h)
      (done : h.seek o.files offset origin = .ok (position, h')) :
      Step o (.moved i position) (o.put o.files i h')
  | closed {i : Nat} {h : Handle} (held : o.handle i = some h) : Step o (.closed i) (o.put o.files i h.close)

/-- Nothing is open yet. -/
def unopened (files : FileTree) : OpenFiles :=
  ⟨files, fun _ => none⟩

/-- What the handles have done on some files, the latest first, and what they have come to. -/
inductive Runs : List FileEvent → OpenFiles → Prop
  | start (files : FileTree) : Runs [] (unopened files)
  | step {events : List FileEvent} {event : FileEvent} {o next : OpenFiles} (run : Runs events o)
      (stepped : o.Step event next) : Runs (event :: events) next

end OpenFiles

namespace FileEvent

/-- The handle was opened anew, or moved. -/
def Resets (event : FileEvent) (i : Nat) : Prop :=
  event = .opened i ∨ ∃ position, event = .moved i position

/-- A read through the handle that asked for something found the end of the file. -/
def FindsEnd (event : FileEvent) (i id : Nat) : Prop :=
  ∃ count, count ≠ 0 ∧ event = .read i id count []

theorem findsEnd_read_iff {i j id other count : Nat} {bytes : List UInt8} :
    (read j other count bytes).FindsEnd i id ↔ j = i ∧ other = id ∧ bytes = [] ∧ count ≠ 0 := by
  constructor
  · rintro ⟨_, asked, same⟩
    cases same
    exact ⟨rfl, rfl, rfl, asked⟩
  · rintro ⟨rfl, rfl, rfl, asked⟩
    exact ⟨count, asked, rfl⟩

/-- The file was written through another handle. -/
def WritesBeside (event : FileEvent) (i id : Nat) : Prop :=
  ∃ j data, j ≠ i ∧ event = .written j id data

end FileEvent

/-- The handle has found the end of the file and was not moved since; `later` is what has happened since. -/
def FoundEnd (events later : List FileEvent) (i id : Nat) : Prop :=
  ∃ found earlier, events = later ++ found :: earlier ∧ found.FindsEnd i id ∧ ∀ event ∈ later, ¬ event.Resets i

theorem foundEnd_cons_iff {event : FileEvent} {events later : List FileEvent} {i id : Nat} :
    FoundEnd (event :: events) later i id ↔
      (later = [] ∧ event.FindsEnd i id) ∨
        ∃ since, later = event :: since ∧ ¬ event.Resets i ∧ FoundEnd events since i id := by
  constructor
  · rintro ⟨found, earlier, same, finds, still⟩
    cases later with
    | nil =>
      obtain ⟨rfl, rfl⟩ := List.cons.inj same
      exact .inl ⟨rfl, finds⟩
    | cons first since =>
      obtain ⟨rfl, rest⟩ := List.cons.inj same
      refine .inr ⟨since, rfl, still event List.mem_cons_self, found, earlier, rest, finds, ?_⟩
      exact fun other member => still other (List.mem_cons_of_mem event member)
  · rintro (⟨rfl, finds⟩ | ⟨since, rfl, stays, found, earlier, rfl, finds, still⟩)
    · exact ⟨event, events, rfl, finds, nofun⟩
    · refine ⟨found, earlier, rfl, finds, fun other member => ?_⟩
      rcases List.mem_cons.1 member with rfl | further
      · exact stays
      · exact still other further

namespace OpenFiles

variable {o next : OpenFiles} {event : FileEvent} {events : List FileEvent} {i j id : Nat} {h : Handle}
  {files : FileTree}

@[simp]
theorem handle_put : (o.put files i h).handle i = some h :=
  if_pos rfl

theorem handle_put_of_ne (other : j ≠ i) : (o.put files i h).handle j = o.handle j :=
  if_neg other

/-- The flag of the handle is set. -/
def AtEnd (o : OpenFiles) (i : Nat) : Prop :=
  ∃ h, o.handle i = some h ∧ h.atEnd = true

theorem atEnd_put_iff : (o.put files i h).AtEnd i ↔ h.atEnd = true := by
  simp [AtEnd]

theorem atEnd_put_of_ne (other : j ≠ i) : (o.put files i h).AtEnd j ↔ o.AtEnd j := by
  unfold AtEnd
  rw [handle_put_of_ne other]

/-- A step sets the flag if it finds the end, and else the handle keeps it unless it is moved. -/
theorem Step.atEnd_iff (stepped : o.Step event next) :
    next.AtEnd i ↔ (∃ id, event.FindsEnd i id) ∨ ¬ event.Resets i ∧ o.AtEnd i := by
  cases stepped with
  | @opened k file flags h files done =>
    by_cases same : i = k
    · subst same
      obtain ⟨-, fresh, -⟩ := LocalFiles.openFile_eq_ok done
      simp [atEnd_put_iff, fresh, FileEvent.FindsEnd, FileEvent.Resets]
    · simp [atEnd_put_of_ne same, FileEvent.FindsEnd, FileEvent.Resets, Ne.symm same]
  | @read k id count bytes h h' held file done =>
    by_cases same : i = k
    · subst same
      rw [atEnd_put_iff, Handle.atEnd_of_read done]
      simp [FileEvent.findsEnd_read_iff, FileEvent.Resets, AtEnd, held]
    · simp [atEnd_put_of_ne same, FileEvent.FindsEnd, FileEvent.Resets, Ne.symm same]
  | @written k id n data h h' files held file done =>
    by_cases same : i = k
    · subst same
      obtain ⟨_, -, rfl, -⟩ := Handle.write_eq_ok done
      simp [FileEvent.FindsEnd, FileEvent.Resets, AtEnd, held]
    · simp [atEnd_put_of_ne same, FileEvent.FindsEnd, FileEvent.Resets]
  | @moved k position offset origin h h' held done =>
    by_cases same : i = k
    · subst same
      rw [Handle.seek_eq_ok done]
      simp [atEnd_put_iff, FileEvent.FindsEnd, FileEvent.Resets]
    · simp [atEnd_put_of_ne same, FileEvent.FindsEnd, FileEvent.Resets, Ne.symm same]
  | @closed k h held =>
    by_cases same : i = k
    · subst same
      simp [FileEvent.FindsEnd, FileEvent.Resets, AtEnd, held, Handle.close]
    · simp [atEnd_put_of_ne same, FileEvent.FindsEnd, FileEvent.Resets]

/-- The handle is behind the last byte of the file. -/
def Behind (o : OpenFiles) (i id : Nat) : Prop :=
  ∃ h, o.handle i = some h ∧ h.node = .file id ∧ (o.files.bytes id).length ≤ h.position

/-- A handle that finds the end is behind the file. -/
theorem Step.behind_of_findsEnd (stepped : o.Step event next) (finds : event.FindsEnd i id) :
    next.Behind i id := by
  obtain ⟨count, asked, rfl⟩ := finds
  cases stepped with
  | @read _ _ _ _ h h' held file done =>
    obtain ⟨id', file', read, rfl⟩ := Handle.read_eq_ok done
    obtain rfl := FileNode.file.inj (file.symm.trans file')
    have rest := (List.take_eq_nil_iff.1 read.symm).resolve_left asked
    exact ⟨_, handle_put, file, List.drop_eq_nil_iff.1 rest⟩

/-- A handle stays behind the file until it is moved or the file is written through another one. -/
theorem Step.behind (stepped : o.Step event next) (behind : o.Behind i id) (stays : ¬ event.Resets i)
    (alone : ¬ event.WritesBeside i id) : next.Behind i id := by
  obtain ⟨h₀, at_, file₀, length⟩ := behind
  cases stepped with
  | @opened k file flags h files done =>
    have other : i ≠ k := by
      rintro rfl
      exact stays (.inl rfl)
    obtain ⟨-, -, shrinks⟩ := LocalFiles.openFile_eq_ok done
    exact ⟨h₀, (handle_put_of_ne other).trans at_, file₀, Nat.le_trans (shrinks id) length⟩
  | @read k id' count bytes h h' held file done =>
    by_cases same : i = k
    · subst same
      obtain rfl := Option.some.inj (at_.symm.trans held)
      obtain ⟨_, -, -, rfl⟩ := Handle.read_eq_ok done
      exact ⟨_, handle_put, file₀, Nat.le_trans length (Nat.le_add_right _ _)⟩
    · exact ⟨h₀, (handle_put_of_ne same).trans at_, file₀, length⟩
  | @written k id' n data h h' files held file done =>
    obtain ⟨there, file', rfl, others, grown⟩ := Handle.write_eq_ok done
    obtain rfl := FileNode.file.inj (file.symm.trans file')
    by_cases same : i = k
    · -- The handle is moved behind what it writes itself.
      subst same
      obtain rfl := Option.some.inj (at_.symm.trans held)
      obtain rfl := FileNode.file.inj (file₀.symm.trans file)
      refine ⟨_, handle_put, file₀, Nat.le_trans grown (Nat.max_le.2 ⟨?_, Nat.le_refl _⟩)⟩
      exact Nat.le_trans length (Nat.le_add_right _ _)
    · have apart : id ≠ id' := by
        rintro rfl
        exact alone ⟨k, data, Ne.symm same, rfl⟩
      refine ⟨h₀, (handle_put_of_ne same).trans at_, file₀, ?_⟩
      change (files.bytes id).length ≤ _
      rwa [others id apart]
  | @moved k position offset origin h h' held done =>
    have other : i ≠ k := by
      rintro rfl
      exact stays (.inr ⟨position, rfl⟩)
    exact ⟨h₀, (handle_put_of_ne other).trans at_, file₀, length⟩
  | @closed k h held =>
    by_cases same : i = k
    · subst same
      obtain rfl := Option.some.inj (at_.symm.trans held)
      exact ⟨_, handle_put, file₀, length⟩
    · exact ⟨h₀, (handle_put_of_ne same).trans at_, file₀, length⟩

namespace Runs

/-- The flag of a handle says that it has found the end, some time since it was moved. -/
theorem atEnd_iff (run : Runs events o) (i : Nat) : o.AtEnd i ↔ ∃ later id, FoundEnd events later i id := by
  induction run with
  | start files =>
    constructor
    · rintro ⟨h, held, -⟩
      cases held
    · rintro ⟨later, id, found, earlier, same, -⟩
      simp at same
  | step run stepped ih =>
    rw [stepped.atEnd_iff, ih]
    simp only [foundEnd_cons_iff]
    constructor
    · rintro (⟨id, finds⟩ | ⟨stays, later, id, found⟩)
      · exact ⟨[], id, .inl ⟨rfl, finds⟩⟩
      · exact ⟨_, id, .inr ⟨later, rfl, stays, found⟩⟩
    · rintro ⟨later, id, ⟨-, finds⟩ | ⟨since, -, stays, found⟩⟩
      · exact .inl ⟨id, finds⟩
      · exact .inr ⟨stays, since, id, found⟩

/-- A handle that has found the end is behind the file, or the file was written beside it. -/
theorem behind_or_written (run : Runs events o) {later : List FileEvent} (found : FoundEnd events later i id) :
    o.Behind i id ∨ ∃ event ∈ later, event.WritesBeside i id := by
  induction run generalizing later with
  | start files =>
    obtain ⟨_, _, same, -⟩ := found
    simp at same
  | @step events event o next run stepped ih =>
    rcases foundEnd_cons_iff.1 found with ⟨-, finds⟩ | ⟨since, rfl, stays, earlier⟩
    · exact .inl (stepped.behind_of_findsEnd finds)
    · rcases ih earlier with behind | ⟨written, member, beside⟩
      · by_cases beside : event.WritesBeside i id
        · exact .inr ⟨event, List.mem_cons_self, beside⟩
        · exact .inl (stepped.behind behind stays beside)
      · exact .inr ⟨written, List.mem_cons_of_mem event member, beside⟩

end Runs

/-- The handle has found the end of its file, and the file was written through another handle since, but the
handle was not moved. -/
def Outgrown (events : List FileEvent) (i : Nat) : Prop :=
  ∃ later id, FoundEnd events later i id ∧ ∃ event ∈ later, event.WritesBeside i id

/-- After a read that asked for something, the flag of a handle says that the read found nothing, or that the
file was written through another handle since the handle has found the end there, and it was not moved since. -/
theorem atEnd_iff_of_read (run : Runs events o) (held : o.handle i = some h) {count : Nat} {bytes : List UInt8}
    {h' : Handle} (asked : count ≠ 0) (done : h.read o.files count = .ok (bytes, h')) :
    h'.atEnd = true ↔ bytes = [] ∨ Outgrown events i := by
  have before : h.atEnd = true ↔ ∃ later id, FoundEnd events later i id := by
    rw [← run.atEnd_iff]
    simp [AtEnd, held]
  rw [Handle.atEnd_of_read done, before]
  constructor
  · rintro (⟨nothing, -⟩ | ⟨later, id, found⟩)
    · exact .inl nothing
    · rcases run.behind_or_written found with ⟨h₀, same, file, behind⟩ | written
      · -- Behind the file there is nothing to read.
        obtain rfl := Option.some.inj (held.symm.trans same)
        obtain ⟨id', file', read, -⟩ := Handle.read_eq_ok done
        obtain rfl := FileNode.file.inj (file.symm.trans file')
        rw [List.drop_eq_nil_of_le behind, List.take_nil] at read
        exact .inl read
      · exact .inr ⟨later, id, found, written⟩
  · rintro (nothing | ⟨later, id, found, -⟩)
    · exact .inl ⟨nothing, asked⟩
    · exact .inr ⟨later, id, found⟩

/-- A machine with one file, which is empty. -/
def emptied : FileTree :=
  (FileTree.initial.openToWrite "f" true true).toOption.elim .initial Prod.snd

/-- The handle reads what was written to the file when it had found the end there, and has its flag set. -/
theorem atEnd_of_grown :
    ∃ events o h h', Runs events o ∧ o.handle 1 = some h ∧ h.read o.files 4 = .ok ([97, 98], h') ∧
      h'.atEnd = true := by
  let writer : Handle := { node := .file 0, writable := true }
  let reader : Handle := { node := .file 0, writable := false }
  let ended : Handle := { reader with atEnd := true }
  have first : LocalFiles.openFile "f" .toWrite .initial = .ok writer emptied := rfl
  have second : LocalFiles.openFile "f" .toRead emptied = .ok reader emptied := rfl
  have found : reader.read emptied 4 = .ok ([], ended) := rfl
  have wrote : writer.write emptied [97, 98] =
      .ok (2, { writer with position := 2 }, emptied.setBytes 0 [97, 98]) := rfl
  have run := ((((Runs.start .initial).step (.opened (i := 0) first)).step (.opened (i := 1) second)).step
    (.read (i := 1) rfl rfl found)).step (.written (i := 0) rfl rfl wrote)
  have again : ended.read (emptied.setBytes 0 [97, 98]) 4 = .ok ([97, 98], { ended with position := 2 }) := rfl
  have outgrown : Outgrown [.written 0 0 [97, 98], .read 1 0 4 [], .opened 1, .opened 0] 1 := by
    refine ⟨[.written 0 0 [97, 98]], 0, ⟨.read 1 0 4 [], [.opened 1, .opened 0], rfl, ?_, ?_⟩, ?_⟩
    · exact ⟨4, by decide, rfl⟩
    · simp [FileEvent.Resets]
    · exact ⟨_, List.mem_singleton.2 rfl, 0, [97, 98], by decide, rfl⟩
  have flag := (atEnd_iff_of_read run rfl (by decide) again).2 (.inr outgrown)
  exact ⟨_, _, ended, _, run, rfl, again, flag⟩

end OpenFiles
end Stowage
