import Stowage.Disk.Host
import Stowage.Proofs.Actions

/-! Names of files. Different names can lead to one file, and a file that is removed is gone under all of
its names. A name that leads to another file still leads there, to the same bytes. -/
namespace Stowage

namespace FileTree

/-- The tree without what stands under a key. -/
def without (t : FileTree) (key : String) : FileTree :=
  { t with nodes := t.nodes.erase key }

/-- The name leads to the file that stands under the key. -/
def LeadsTo (t : FileTree) (name key : String) (id : Nat) : Prop :=
  ∃ path dir part at_, FilePath.parse name = .ok path ∧ t.holder path = .ok dir ∧
    path.parts.getLast? = some part ∧ t.step dir part = .ok (at_, .file id) ∧
    path.trailingSlash = false ∧ Path.join at_ = key

/-- The names lead to one file. -/
def SameFile (t : FileTree) (name other : String) : Prop :=
  ∃ key id, t.LeadsTo name key id ∧ t.LeadsTo other key id

variable {t after : FileTree} {name other key gone : String} {id removed : Nat}
  {dir at_ : List String} {part : String} {node : FileNode} {bytes : List UInt8}

theorem node?_without (t : FileTree) (key : String) (at_ : List String) :
    (t.without key).node? at_ =
      if at_ ≠ [] ∧ Path.join at_ = key then none else t.node? at_ := by
  unfold node? without
  rw [Table.get?_erase]
  by_cases top : at_ = [] <;> simp [top]

/-- A step goes to a directory that is there anyway, or to what stands under a name of its own. -/
theorem step_cases (stepped : t.step dir part = .ok (at_, node)) :
    (node = .directory ∧ ∀ t' : FileTree, t'.step dir part = .ok (at_, node)) ∨
      (at_ = dir ++ [part] ∧ t.node? at_ = some node ∧ part ≠ "." ∧ part ≠ ".." ∧
        ∀ t' : FileTree, t'.step dir part =
          match t'.node? at_ with
          | some found => .ok (at_, found)
          | none => .error .noEntry) := by
  unfold step at stepped ⊢
  by_cases here : part = "."
  · simp only [here, if_true] at stepped ⊢
    cases stepped
    exact .inl ⟨rfl, fun _ => rfl⟩
  by_cases up : part = ".."
  · simp only [up] at stepped ⊢
    cases stepped
    exact .inl ⟨rfl, fun _ => rfl⟩
  by_cases long : part.utf8ByteSize > FilePath.maxPart
  · simp only [here, up, long, if_true, if_false] at stepped
    cases stepped
  simp only [here, up, long, if_false] at stepped ⊢
  cases there : t.node? (dir ++ [part]) with
  | none =>
    rw [there] at stepped
    cases stepped
  | some found =>
    rw [there] at stepped
    cases stepped
    exact .inr ⟨rfl, there, here, up, fun _ => rfl⟩

/-- A step to a file finds it under its key. -/
theorem stored_of_step (stepped : t.step dir part = .ok (at_, .file id)) :
    t.nodes.get? (Path.join at_) = some (.file id) := by
  rcases step_cases stepped with ⟨directory, -⟩ | ⟨rfl, there, -⟩
  · cases directory
  · unfold node? at there
    rwa [if_neg (by simp)] at there

/-- A step ends where it did, unless it ends at the file whose name is taken. -/
theorem step_without (file : t.nodes.get? gone = some (.file removed))
    (stepped : t.step dir part = .ok (at_, node)) (other : node ≠ .file removed ∨ Path.join at_ ≠ gone) :
    (t.without gone).step dir part = .ok (at_, node) := by
  rcases step_cases stepped with ⟨-, anyway⟩ | ⟨rfl, there, -, -, steps⟩
  · exact anyway _
  · rw [steps, node?_without, if_neg, there]
    rintro ⟨below, same⟩
    unfold node? at there
    rw [if_neg below, same, file, Option.some.injEq] at there
    exact other.elim (· there.symm) (· same)

/-- A step to a file whose name is taken finds nothing. -/
theorem step_gone (stepped : t.step dir part = .ok (at_, .file id)) :
    (t.without (Path.join at_)).step dir part = .error .noEntry := by
  rcases step_cases stepped with ⟨directory, -⟩ | ⟨rfl, -, -, -, steps⟩
  · cases directory
  · rw [steps, node?_without, if_pos ⟨by simp, rfl⟩]

/-- What a step did not find, it does not find when a file is gone. -/
theorem step_missing (gone : String) (missing : t.step dir part = .error .noEntry) :
    (t.without gone).step dir part = .error .noEntry := by
  unfold step at missing ⊢
  cases there : t.node? (dir ++ [part]) with
  | none =>
    have absent : (t.without gone).node? (dir ++ [part]) = none := by
      rw [node?_without, there, ite_self]
    rw [there] at missing
    rwa [absent]
  | some node =>
    rw [there] at missing
    split at missing
    · cases missing
    · split at missing
      · cases missing
      · split at missing <;> cases missing

/-- All directories can still be walked to when a file is gone. -/
theorem walk_without (file : t.nodes.get? gone = some (.file removed)) {parts found : List String}
    (walked : t.walk dir parts = .ok found) : (t.without gone).walk dir parts = .ok found := by
  induction parts generalizing dir with
  | nil => exact walked
  | cons part rest ih =>
    unfold walk at walked ⊢
    obtain ⟨⟨next, node⟩, stepped, onward⟩ := Error.bind_eq_ok_iff.1 walked
    cases node with
    | file other => cases onward
    | directory =>
      exact Error.bind_eq_ok_iff.2 ⟨_, step_without file stepped (.inl nofun), ih onward⟩

theorem walk_missing (file : t.nodes.get? gone = some (.file removed)) {parts : List String}
    (missing : t.walk dir parts = .error .noEntry) :
    (t.without gone).walk dir parts = .error .noEntry := by
  induction parts generalizing dir with
  | nil => cases missing
  | cons part rest ih =>
    unfold walk at missing ⊢
    cases stepped : t.step dir part with
    | error fault =>
      rw [stepped] at missing
      cases missing
      rw [step_missing gone stepped]
      rfl
    | ok reached =>
      obtain ⟨next, node⟩ := reached
      rw [stepped] at missing
      cases node with
      | file other => cases missing
      | directory =>
        rw [step_without file stepped (.inl nofun)]
        exact ih missing

theorem LeadsTo.stored (leads : t.LeadsTo name key id) : t.nodes.get? key = some (.file id) := by
  obtain ⟨path, dir, part, at_, -, -, -, stepped, -, rfl⟩ := leads
  exact stored_of_step stepped

theorem LeadsTo.unique {key' : String} {id' : Nat} (leads : t.LeadsTo name key id)
    (again : t.LeadsTo name key' id') : key = key' ∧ id = id' := by
  obtain ⟨path, dir, part, at_, parsed, held, last, stepped, -, rfl⟩ := leads
  obtain ⟨path', dir', part', at_', parsed', held', last', stepped', -, rfl⟩ := again
  obtain rfl := Except.ok.inj (parsed.symm.trans parsed')
  obtain rfl := Except.ok.inj (held.symm.trans held')
  obtain rfl := Option.some.inj (last.symm.trans last')
  cases stepped.symm.trans stepped'
  exact ⟨rfl, rfl⟩

theorem LeadsTo.without (file : t.nodes.get? gone = some (.file removed))
    (leads : t.LeadsTo name key id) (other : key ≠ gone) : (t.without gone).LeadsTo name key id := by
  obtain ⟨path, dir, part, at_, parsed, held, last, stepped, plain, rfl⟩ := leads
  exact ⟨path, dir, part, at_, parsed, walk_without file held, last,
    step_without file stepped (.inr other), plain, rfl⟩

theorem lookup_eq_file_iff : t.lookup name = .ok (.file id) ↔ ∃ key, t.LeadsTo name key id := by
  unfold lookup LeadsTo
  constructor
  · intro found
    obtain ⟨path, parsed, walked⟩ := Error.bind_eq_ok_iff.1 found
    obtain ⟨dir, held, ended⟩ := Error.bind_eq_ok_iff.1 walked
    cases last : path.parts.getLast? with
    | none =>
      rw [last] at ended
      cases ended
    | some part =>
      rw [last] at ended
      obtain ⟨⟨at_, node⟩, stepped, stays⟩ := Error.bind_eq_ok_iff.1 ended
      cases node with
      | directory => cases stays
      | file other =>
        dsimp only at stays
        split at stays
        · cases stays
        · rename_i plain
          cases stays
          exact ⟨_, path, dir, part, at_, parsed, held, last, stepped, by simpa using plain, rfl⟩
  · rintro ⟨key, path, dir, part, at_, parsed, held, last, stepped, plain, -⟩
    simp only [parsed, held, last, stepped, plain, bind, Except.bind, pure, Except.pure]
    rfl

/-- A name that leads to a file whose name is taken leads nowhere. -/
theorem LeadsTo.lookup_gone (leads : t.LeadsTo name key id) :
    (t.without key).lookup name = .error .noEntry := by
  have file := leads.stored
  obtain ⟨path, dir, part, at_, parsed, held, last, stepped, -, rfl⟩ := leads
  have holder : (t.without (Path.join at_)).holder path = .ok dir := walk_without file held
  unfold lookup
  simp only [parsed, holder, last, step_gone stepped, bind, Except.bind]

/-- A name that leads nowhere still leads nowhere when a file is gone. -/
theorem lookup_missing (file : t.nodes.get? gone = some (.file removed))
    (missing : t.lookup name = .error .noEntry) : (t.without gone).lookup name = .error .noEntry := by
  unfold lookup at missing ⊢
  cases parsed : FilePath.parse name with
  | error fault => rwa [parsed] at missing
  | ok path =>
    rw [parsed] at missing
    simp only [bind, Except.bind] at missing ⊢
    -- The way there leads through directories, so it is found or missed as before.
    cases held : t.holder path with
    | error fault =>
      rw [held] at missing
      cases missing
      have holder : (t.without gone).holder path = .error .noEntry := walk_missing file held
      rw [holder]
    | ok dir =>
      have holder : (t.without gone).holder path = .ok dir := walk_without file held
      rw [held] at missing
      rw [holder]
      cases last : path.parts.getLast? with
      | none =>
        rw [last] at missing
        cases missing
      | some part =>
        rw [last] at missing
        cases stepped : t.step dir part with
        | error fault =>
          simp only [stepped] at missing ⊢
          cases missing
          rw [step_missing gone stepped]
        | ok reached =>
          obtain ⟨at_, node⟩ := reached
          simp only [stepped] at missing
          cases node with
          | directory => cases missing
          | file id =>
            by_cases slash : path.trailingSlash = true
            · simp only [slash, if_true] at missing
              cases missing
            · simp only [slash] at missing
              cases missing

theorem read_eq_ok_iff :
    t.read name = .ok bytes ↔ ∃ key id, t.LeadsTo name key id ∧ t.bytes id = bytes := by
  have leads : t.read name = .ok bytes ↔ ∃ id, t.lookup name = .ok (.file id) ∧ t.bytes id = bytes := by
    unfold read openToRead
    constructor
    · intro done
      obtain ⟨node, found, whole⟩ := Error.bind_eq_ok_iff.1 done
      cases node with
      | directory => cases whole
      | file id =>
        cases whole
        exact ⟨id, found, rfl⟩
    · rintro ⟨id, found, rfl⟩
      rw [found]
      rfl
  rw [leads]
  simp only [lookup_eq_file_iff]
  constructor
  · rintro ⟨id, ⟨key, leads⟩, whole⟩
    exact ⟨key, id, leads, whole⟩
  · rintro ⟨key, id, leads, whole⟩
    exact ⟨id, ⟨key, leads⟩, whole⟩

theorem lastName?_eq_some_iff {path : FilePath} :
    FilePath.lastName? path = some part ↔
      path.parts.getLast? = some part ∧ part ≠ "." ∧ part ≠ ".." := by
  unfold FilePath.lastName?
  cases path.parts.getLast? with
  | none => simp
  | some last =>
    split
    · rename_i here
      cases here
      grind
    · rename_i up
      cases up
      grind
    · rename_i none_
      cases none_
    · grind

/-- What can be removed is a file, and only its name is taken. -/
theorem removeFile_eq_ok_iff :
    t.removeFile name = .ok after ↔ ∃ key id, t.LeadsTo name key id ∧ t.without key = after := by
  unfold removeFile LeadsTo
  constructor
  · intro taken
    obtain ⟨path, parsed, walked⟩ := Error.bind_eq_ok_iff.1 taken
    obtain ⟨dir, held, ended⟩ := Error.bind_eq_ok_iff.1 walked
    cases named : FilePath.lastName? path with
    | none =>
      rw [named] at ended
      cases ended
    | some part =>
      rw [named] at ended
      obtain ⟨last, -⟩ := lastName?_eq_some_iff.1 named
      obtain ⟨⟨at_, node⟩, stepped, rest⟩ := Error.bind_eq_ok_iff.1 ended
      cases node with
      | directory => cases rest
      | file id =>
        obtain ⟨plain, done⟩ := Error.guarded_eq_ok_iff.1 rest
        cases done
        exact ⟨_, id, ⟨path, dir, part, at_, parsed, held, last, stepped, by simpa using plain, rfl⟩,
          rfl⟩
  · rintro ⟨_, id, ⟨path, dir, part, at_, parsed, held, last, stepped, plain, rfl⟩, rfl⟩
    have named : FilePath.lastName? path = some part := by
      rcases step_cases stepped with ⟨directory, -⟩ | ⟨-, -, here, up, -⟩
      · cases directory
      · exact lastName?_eq_some_iff.2 ⟨last, here, up⟩
    simp only [parsed, held, named, stepped, plain, bind, Except.bind, pure, Except.pure]
    rfl

/-- A file that is removed is gone under each of its names, and all other files are as they were. -/
theorem read_removed (taken : t.removeFile name = .ok after) (stored : t.read other = .ok bytes) :
    t.SameFile name other ∧ after.read other = .error .noEntry ∨
      ¬ t.SameFile name other ∧ after.read other = .ok bytes := by
  obtain ⟨gone, removed, leads, rfl⟩ := removeFile_eq_ok_iff.1 taken
  obtain ⟨key, id, found, rfl⟩ := read_eq_ok_iff.1 stored
  by_cases same : key = gone
  · subst same
    have one := leads.stored.symm.trans found.stored
    cases one
    refine .inl ⟨⟨key, _, leads, found⟩, ?_⟩
    unfold read openToRead
    rw [found.lookup_gone]
    rfl
  · refine .inr ⟨?_, read_eq_ok_iff.2 ⟨key, id, found.without leads.stored same, rfl⟩⟩
    rintro ⟨shared, _, first, second⟩
    obtain ⟨rfl, -⟩ := first.unique leads
    obtain ⟨rfl, -⟩ := second.unique found
    exact same rfl

/-- What cannot be read because it is missing is missing after a removal, too. -/
theorem read_missing (taken : t.removeFile name = .ok after)
    (missing : t.read other = .error .noEntry) : after.read other = .error .noEntry := by
  obtain ⟨gone, removed, leads, rfl⟩ := removeFile_eq_ok_iff.1 taken
  have lost : t.lookup other = .error .noEntry := by
    unfold read openToRead at missing
    cases found : t.lookup other with
    | error fault =>
      rw [found] at missing
      cases missing
      rfl
    | ok node =>
      rw [found] at missing
      cases node <;> cases missing
  unfold read openToRead
  rw [lookup_missing leads.stored lost]
  rfl

/-- A file that can be removed was there to be read, and is not there any more. -/
theorem read_of_removeFile (taken : t.removeFile name = .ok after) :
    (∃ bytes, t.read name = .ok bytes) ∧ after.read name = .error .noEntry := by
  obtain ⟨key, id, leads, -⟩ := removeFile_eq_ok_iff.1 taken
  have stored : t.read name = .ok (t.bytes id) := read_eq_ok_iff.2 ⟨key, id, leads, rfl⟩
  refine ⟨⟨_, stored⟩, ?_⟩
  rcases read_removed taken stored with ⟨-, lost⟩ | ⟨other, -⟩
  · exact lost
  · exact absurd ⟨key, id, leads, leads⟩ other

end FileTree

/-- A host removes a file, finds none, or refuses. -/
theorem Host.removeFile_cases (host : Host) (name : String) :
    (∃ files, host.files.removeFile name = .ok files ∧
        host.removeFile name = .ok { host with files }) ∨
      host.files.removeFile name = .error .noEntry ∧ host.removeFile name = .ok host ∨
      ∃ fault e, host.files.removeFile name = .error fault ∧ fault ≠ .noEntry ∧
        host.removeFile name = .error e := by
  unfold Host.removeFile
  cases host.files.removeFile name with
  | ok files => exact .inl ⟨files, rfl, rfl⟩
  | error fault =>
    cases fault with
    | noEntry => exact .inr (.inl ⟨rfl, rfl⟩)
    | _ => exact .inr (.inr ⟨_, _, rfl, nofun, rfl⟩)

end Stowage
