import Stowage.Proofs.HostingFilesystems
import Stowage.Proofs.NormalForms

/-! Names of the files that are written. The driver of disk pools names a file after the root of a filesystem and
the normal form of the logical path. The form has proper components alone, so followed in any tree of files the
name leads below the directory of the root, down these components. What is given for two paths on one filesystem
is one file only if the paths have one normal form. Other drivers are asked for nothing but that they claim no
filesystem for their chunks. -/
namespace Stowage

/-- The components that the name of a file is read as. -/
def FilePath.components (name : String) : List String :=
  (Text.parts '/' name).filter (· ≠ "")

namespace FilePath

variable {name : String} {names : List String}

theorem parts_of_parse {path : FilePath} (parsed : parse name = .ok path) :
    path.parts = components name ∧ path.absolute = Path.isAbsolute name ∧
      (path.trailingSlash = true ↔ components name ≠ [] ∧ name.toList.getLast? = some '/') := by
  unfold parse at parsed
  split at parsed
  · cases parsed
  · split at parsed
    · cases parsed
    · split at parsed
      · cases parsed
      · cases parsed
        exact ⟨rfl, rfl, by simp [components]⟩

@[simp]
theorem components_empty : components "" = [] := by decide +kernel

theorem components_append (front back : String) :
    components (front ++ "/" ++ back) = components front ++ components back := by
  have pieces : Text.parts '/' (front ++ "/" ++ back) = Text.parts '/' front ++ Text.parts '/' back :=
    Text.parts_append '/' front back
  unfold components
  rw [pieces, List.filter_append]

theorem components_of_isComponent (proper : Path.IsComponent name) : components name = [name] := by
  obtain ⟨filled, -, -, clean⟩ := proper
  have whole : name.toList.splitOn '/' = [name.toList] := List.splitOn_eq_singleton clean
  unfold components Text.parts
  rw [whole]
  simp [filled]

/-- Slashes at its end are nothing to a name. -/
theorem components_bare (root : String) : components (String.ofList (Path.bare root)) = components root := by
  have more : ∀ (n : Nat) (front : List Char),
      components (String.ofList (front ++ List.replicate n '/')) = components (String.ofList front) := by
    intro n
    induction n with
    | zero => simp
    | succ n ih =>
      intro front
      have turned : front ++ List.replicate (n + 1) '/' = (front ++ ['/']) ++ List.replicate n '/' := by
        simp [List.replicate_succ]
      have text : String.ofList (front ++ ['/']) = String.ofList front ++ "/" ++ "" := by
        rw [← String.toList_inj]
        simp
      rw [turned, ih, text, components_append, components_empty, List.append_nil]
  rw [← more (Path.slashes root), ← Path.toList_root, String.ofList_toList]

/-- Components that stand after a name, each after a slash, are read after those of the name. -/
theorem components_tail (proper : ∀ part ∈ names, Path.IsComponent part) (front : String) :
    components (String.ofList (front.toList ++ Path.tail names)) = components front ++ names := by
  induction names generalizing front with
  | nil => simp
  | cons part rest ih =>
    have text : front.toList ++ Path.tail (part :: rest) =
        (front ++ "/" ++ part).toList ++ Path.tail rest := by
      simp [String.toList_append]
    rw [text, ih (fun other member => proper other (List.mem_cons_of_mem part member)), components_append,
      components_of_isComponent (proper part List.mem_cons_self), List.append_assoc]
    rfl

end FilePath

namespace FileTree

variable {t : FileTree} {dir at_ front back names : List String}

theorem walk_append : t.walk dir (front ++ back) = (do t.walk (← t.walk dir front) back) := by
  induction front generalizing dir with
  | nil => rfl
  | cons part rest ih =>
    simp only [List.cons_append, walk]
    cases t.step dir part with
    | error fault => rfl
    | ok found =>
      obtain ⟨next, node⟩ := found
      cases node with
      | file id => rfl
      | directory => exact ih

/-- A proper component leads from a directory to what stands there under it. -/
theorem step_of_isComponent {part : String} {node : FileNode} (proper : Path.IsComponent part)
    (stepped : t.step dir part = .ok (at_, node)) : at_ = dir ++ [part] := by
  obtain ⟨-, dot, dots, -⟩ := proper
  unfold step at stepped
  rw [if_neg dot, if_neg dots] at stepped
  split at stepped
  · cases stepped
  · split at stepped
    · cases stepped
      rfl
    · cases stepped

/-- Proper components lead down. -/
theorem walk_of_isComponent (proper : ∀ part ∈ names, Path.IsComponent part)
    (walked : t.walk dir names = .ok at_) : at_ = dir ++ names := by
  induction names generalizing dir with
  | nil =>
    cases walked
    simp
  | cons part rest ih =>
    obtain ⟨⟨next, node⟩, stepped, further⟩ := Error.bind_eq_ok_iff.1 walked
    obtain rfl := step_of_isComponent (proper part List.mem_cons_self) stepped
    cases node with
    | file id => cases further
    | directory =>
      rw [ih (fun other member => proper other (List.mem_cons_of_mem part member)) further]
      simp

/-- The directory that a name is followed from. -/
def start (t : FileTree) (name : String) : List String :=
  if Path.isAbsolute name then [] else t.workingDir

/-- A name that ends in proper components leads to what they lead to from where the others do. -/
theorem LeadsTo.below {name key : String} {id : Nat} (leads : t.LeadsTo name key id)
    (read : FilePath.components name = front ++ names) (nonempty : names ≠ [])
    (proper : ∀ part ∈ names, Path.IsComponent part) :
    ∃ dir, t.walk (t.start name) front = .ok dir ∧ key = Path.join (dir ++ names) := by
  obtain ⟨path, held, part, at_, parsed, walked, last, stepped, -, rfl⟩ := leads
  obtain ⟨parts, absolute, -⟩ := FilePath.parts_of_parse parsed
  obtain ⟨outer, inner, rfl⟩ := (List.eq_nil_or_concat' names).resolve_left nonempty
  rw [parts, read, ← List.append_assoc, List.getLast?_concat] at last
  obtain rfl := Option.some.inj last
  unfold holder at walked
  rw [parts, read, ← List.append_assoc, List.dropLast_concat, absolute, walk_append] at walked
  obtain ⟨dir, first, further⟩ := Error.bind_eq_ok_iff.1 walked
  refine ⟨dir, first, ?_⟩
  obtain rfl := walk_of_isComponent (fun other member => proper other (List.mem_append_left _ member)) further
  rw [step_of_isComponent (proper inner (by simp)) stepped, List.append_assoc]

end FileTree

/-- The file stands below the root under the components of the path: its name is the root, less the slashes at
its end, and the path, and in whatever tree it leads to a file, that one stands there. -/
structure DiskDriver.Confined (root path file : String) : Prop where
  text : file = String.ofList (Path.bare root) ++ path
  starts : root ≠ "" → Path.isAbsolute file = Path.isAbsolute root
  read : FilePath.components file = FilePath.components root ++ Path.split path
  proper : ∀ name ∈ Path.split path, Path.IsComponent name
  leads : ∀ (t : FileTree) key id, t.LeadsTo file key id → ∃ dir,
    t.walk (t.start file) (FilePath.components root) = .ok dir ∧ key = Path.join (dir ++ Path.split path)

namespace DiskDriver

variable {names : List String}

theorem toList_physicalName_join (proper : ∀ part ∈ names, Path.IsComponent part) (root : String) :
    (physicalName root (Path.join names)).toList = Path.bare root ++ (Path.join names).toList := by
  cases names with
  | nil => exact toList_physicalName root "/"
  | cons name rest =>
    have nonempty : name :: rest ≠ [] := List.cons_ne_nil name rest
    rw [Path.toList_join nonempty]
    exact Spot.toList_file ⟨"", root, name :: rest, proper, nonempty⟩

theorem components_physicalName (proper : ∀ part ∈ names, Path.IsComponent part) (root : String) :
    FilePath.components (physicalName root (Path.join names)) = FilePath.components root ++ names := by
  have text := congrArg String.ofList (toList_physicalName_join proper root)
  rw [String.ofList_toList] at text
  cases names with
  | nil =>
    have slash : String.ofList (Path.bare root ++ (Path.join []).toList) =
        String.ofList (Path.bare root) ++ "/" ++ "" := by
      rw [← String.toList_inj]
      simp [Path.join]
    rw [text, slash, FilePath.components_append, FilePath.components_bare, FilePath.components_empty]
  | cons name rest =>
    rw [text, Path.toList_join (List.cons_ne_nil name rest), ← FilePath.components_bare root]
    have below := FilePath.components_tail proper (String.ofList (Path.bare root))
    rwa [String.toList_ofList] at below

theorem isAbsolute_physicalName {root : String} (nonempty : root ≠ "")
    (proper : ∀ part ∈ names, Path.IsComponent part) :
    Path.isAbsolute (physicalName root (Path.join names)) = Path.isAbsolute root := by
  have slash := Path.isAbsolute_join names
  unfold Path.isAbsolute at slash ⊢
  rw [toList_physicalName_join proper root, Path.toList_root root]
  cases bare : Path.bare root with
  | cons c rest => rfl
  | nil =>
    rw [List.nil_append, slash]
    cases count : Path.slashes root with
    | zero =>
      have empty := Path.toList_root root
      rw [bare, count] at empty
      exact absurd (String.toList_inj.1 empty) nonempty
    | succ n => rfl

/-- Files of normal paths are confined. -/
theorem confined_physicalName (root : String) {path : String}
    (normal : ∃ names, (∀ part ∈ names, Path.IsComponent part) ∧ path = Path.join names) :
    Confined root path (physicalName root path) := by
  obtain ⟨names, proper, rfl⟩ := normal
  have read := components_physicalName proper root
  refine ⟨?_, fun nonempty => isAbsolute_physicalName nonempty proper, ?_, ?_, ?_⟩
  · rw [← String.toList_inj, toList_physicalName_join proper root]
    simp
  · rw [read, Path.split_join proper]
  · rw [Path.split_join proper]
    exact proper
  · intro t key id leads
    rw [Path.split_join proper]
    cases names with
    | cons name rest => exact leads.below read (List.cons_ne_nil name rest) proper
    | nil =>
      -- The root of a filesystem ends in a slash, and no file is behind that.
      obtain ⟨named, held, part, at_, parsed, -, last, -, plain, rfl⟩ := leads
      obtain ⟨parts, -, slash⟩ := FilePath.parts_of_parse parsed
      have ends : (physicalName root (Path.join [])).toList.getLast? = some '/' := by
        rw [toList_physicalName_join proper root]
        simp [Path.join]
      have filled : FilePath.components (physicalName root (Path.join [])) ≠ [] := by
        rw [← parts]
        exact List.ne_nil_of_mem (List.mem_of_getLast? last)
      rw [slash.2 ⟨filled, ends⟩] at plain
      cases plain

/-- On one filesystem, files have one name exactly if their paths are one. -/
theorem Confined.same_iff {root path other file file' : String} (confined : Confined root path file)
    (also : Confined root other file') : file = file' ↔ path = other := by
  rw [confined.text, also.text, ← String.toList_inj, String.toList_append, String.toList_append,
    List.append_cancel_left_eq, String.toList_inj]

end DiskDriver

/-! ### Who claims a filesystem -/

/-- The chunk is on the filesystem at this root of this server, as it says itself. -/
def Chunk.On (chunk : Chunk) (server root : String) : Prop :=
  chunk.host = server ∧ chunk.attrs.text? Chunk.filesystemKey = some root

/-- The driver is that of disk pools, or says of no chunk to write to that it is on a filesystem. -/
def DriverNode.ClaimsOwn : DriverNode → Prop
  | .disk _ => True
  | .plain driver => ∀ pool path location, driver.answer (.writeLocation pool path) = some (.ok location) →
      ∀ chunk ∈ location.chunks, chunk.attrs.text? Chunk.filesystemKey = none

/-- So are the drivers of the stack, and those that it can make. -/
structure OnSite.ClaimsOwn (s : OnSite) : Prop where
  made : ∀ pair ∈ s.stack.drivers, pair.2.ClaimsOwn
  makes : ∀ pair ∈ s.site.manager.registered .driver, ∀ node, pair.2.driverNode = .ok node → node.ClaimsOwn

namespace OnSite

/-- Who claims nothing but his own still does so. -/
def KeepsClaims (s t : OnSite) : Prop :=
  s.ClaimsOwn → t.ClaimsOwn

instance : Action.Frame KeepsClaims where
  refl _ := id
  trans first second claims := second (first claims)

variable {s t : OnSite}

theorem DiskOnly.claimsOwn (disks : s.DiskOnly) : s.ClaimsOwn where
  made pair member := by
    obtain ⟨-, disk, same⟩ := disks.made pair member
    rw [same]
    trivial
  makes pair member node made := by
    obtain ⟨options, same⟩ := disks.makes pair member
    rw [same] at made
    obtain ⟨settings, -, built⟩ := Error.bind_eq_ok_iff.1 made
    cases built
    trivial

end OnSite

namespace StackM

open OnSite

variable {s : OnSite} {type : String} {node : DriverNode}

theorem claimsOwn_tell (ctx : SecurityContext) (claims : node.ClaimsOwn) : (node.tell ctx).2.ClaimsOwn := by
  cases node with
  | disk driver => trivial
  | plain driver => exact claims

theorem claimsOwn_makeDriver (claims : s.ClaimsOwn) {board : Board}
    (made : makeDriver s.site.manager s.stack type = .ok (node, board)) : node.ClaimsOwn := by
  obtain ⟨new, created, attached⟩ := Error.bind_eq_ok_iff.1 made
  obtain ⟨notes, -, adopted⟩ := Error.bind_eq_ok_iff.1 attached
  have own : new.ClaimsOwn := by
    rcases s.site.manager.createDriver_cases type with ⟨pair, member, -, same⟩ | missing
    · exact claims.makes _ member _ (same.symm.trans created)
    · cases created.symm.trans missing
  cases held : s.stack.security with
  | none =>
    simp only [held] at adopted
    cases adopted
    exact own
  | some ctx =>
    simp only [held] at adopted
    obtain ⟨_, -, same⟩ := Error.bind_eq_ok_iff.1 adopted
    cases same
    exact claimsOwn_tell ctx own

theorem keepsClaims_driver (type : String) : Action.Keeps KeepsClaims (driver type) := by
  apply keeps_driver_of_made
  intro s node board making claims
  refine ⟨fun pair member => ?_, claims.makes⟩
  rcases List.mem_append.1 member with old | new
  · exact claims.made pair old
  · obtain rfl := List.mem_singleton.1 new
    exact claimsOwn_makeDriver claims making

theorem claimsOwn_of_driverFor (claims : s.ClaimsOwn) (given : s.driverFor type = .ok node) :
    node.ClaimsOwn := by
  unfold driverFor at given
  split at given
  · rename_i cached
    cases given
    exact claims.made _ (List.mem_of_find?_eq_some cached)
  · obtain ⟨⟨made, board⟩, making, same⟩ := Error.bind_eq_ok_iff.1 given
    cases same
    exact claimsOwn_makeDriver claims making

end StackM

namespace Resolution

open OnSite StackM

variable {s s' t t' : OnSite} {pool : Pool} {path other root server : String} {location : Location} {chunk : Chunk}

theorem keepsClaims_select (free : List Nat) : Action.Keeps KeepsClaims (select free) :=
  keeps_select_of_turned (fun _ _ claims => ⟨claims.made, claims.makes⟩) free

/-- A chunk that is offered and on a filesystem is for the file that disk pools have there. -/
theorem OffersWithin.path_of_on (claims : s.ClaimsOwn)
    (offers : OffersWithin KeepsClaims s pool path location) (member : chunk ∈ location.chunks)
    (on_ : chunk.On server root) : chunk.path = DiskDriver.physicalName root path := by
  obtain ⟨u, v, node, kept, driven, made⟩ := offers
  have own := claimsOwn_of_driverFor (kept claims) (driver_eq_ok driven).1
  obtain ⟨-, recorded⟩ := on_
  cases node with
  | plain driver =>
    rw [askDriver_apply] at made
    unfold DriverNode.handler at made
    dsimp only at made
    cases answer : driver.answer (.writeLocation pool path) with
    | none =>
      rw [answer] at made
      cases made
    | some result =>
      rw [answer] at made
      cases result with
      | error e => cases made
      | ok given =>
        cases made
        rw [own pool path _ answer chunk member] at recorded
        cases recorded
  | disk disk =>
    rw [askDriver_query (r := .writeLocation pool path)
      (f := fun host => disk.writeLocation host.now pool path) rfl] at made
    obtain ⟨placed, -⟩ := Action.eq_ok_of_ofExcept made
    obtain ⟨filesystems, fs, token, -, -, -, rfl⟩ := DiskDriver.writeLocation_eq_ok placed
    obtain rfl := List.mem_singleton.1 member
    rw [Chunk.text?_tag] at recorded
    cases recorded
    rfl

/-- A chunk of a location to write to that is on a filesystem is for a file that is confined there. -/
theorem confined_of_located (claims : s.ClaimsOwn) (located : whereToWrite path s = .ok location t)
    (member : chunk ∈ location.chunks) (on_ : chunk.On server root) :
    DiskDriver.Confined root (Path.absolute s.workingDir path) chunk.path := by
  obtain ⟨target, _, _, _, pool, offered, _, seen, -, -, -, -, offers, -, -, rfl⟩ :=
    whereToWrite_within keepsClaims_driver keepsClaims_select located
  obtain ⟨-, rfl, -⟩ := absolute_eq_ok_iff.1 seen
  obtain ⟨marked, marking, rfl⟩ := List.mem_map.1 member
  obtain ⟨first, given, rfl⟩ := List.mem_map.1 marking
  obtain ⟨host, recorded⟩ := on_
  rw [Chunk.text?_tag_of_ne _ (by decide), Chunk.text?_tag_of_ne _ (by decide)] at recorded
  have name : first.path = DiskDriver.physicalName root (Path.absolute s.workingDir path) :=
    offers.path_of_on claims given ⟨rfl, recorded⟩
  change DiskDriver.Confined root _ first.path
  rw [name]
  exact DiskDriver.confined_physicalName root (Path.absolute_eq_join _ _)

/-- What stacks are given to write on one filesystem is confined there to the paths it is given for, as the
stacks see these, and is one file exactly if it is one path. -/
theorem files_confined_and_distinct {given : Location} {chunk' : Chunk} (claims : s.ClaimsOwn)
    (claims' : s'.ClaimsOwn) (located : whereToWrite path s = .ok location t)
    (located' : whereToWrite other s' = .ok given t') (member : chunk ∈ location.chunks)
    (member' : chunk' ∈ given.chunks) (on_ : chunk.On server root) (on' : chunk'.On server root) :
    DiskDriver.Confined root (Path.absolute s.workingDir path) chunk.path ∧
      DiskDriver.Confined root (Path.absolute s'.workingDir other) chunk'.path ∧
      (chunk.path = chunk'.path ↔ Path.absolute s.workingDir path = Path.absolute s'.workingDir other) := by
  have here := confined_of_located claims located member on_
  have there := confined_of_located claims' located' member' on'
  exact ⟨here, there, here.same_iff there⟩

/-- A stack of root's on a site with a disk pool, whose path ends in a slash. -/
def shelving : OnSite :=
  OnSite.desk .root .initial (Table.ofList [("disk", diskPool "disk" "srv/a/" 1000)]) .initial

/-- The name of the file that a stack is given to write on a filesystem. -/
def fileOn (s : OnSite) (path server root : String) : Option String :=
  match whereToWrite path s with
  | .ok location _ => (location.chunks.find? fun chunk =>
      chunk.host = server ∧ chunk.attrs.text? Chunk.filesystemKey = some root).map Chunk.path
  | .error .. => none

theorem located_of_fileOn {file : String} (found : fileOn s path server root = some file) :
    ∃ location t chunk, whereToWrite path s = .ok location t ∧ chunk ∈ location.chunks ∧
      chunk.On server root ∧ chunk.path = file := by
  unfold fileOn at found
  cases run : whereToWrite path s with
  | error e t =>
    rw [run] at found
    cases found
  | ok location t =>
    rw [run] at found
    obtain ⟨chunk, first, name⟩ := Option.map_eq_some_iff.1 found
    have on_ := List.find?_some first
    rw [decide_eq_true_iff] at on_
    exact ⟨location, t, chunk, rfl, List.mem_of_find?_eq_some first, on_, name⟩

/-- Root is given two files on one filesystem, one of them for a path with a detour. -/
theorem files_of_detour :
    fileOn shelving "/f" "localhost" "srv/a/" = some "srv/a/f" ∧
      fileOn shelving "x/.././../g" "localhost" "srv/a/" = some "srv/a/g" ∧
      DiskDriver.Confined "srv/a/" "/f" "srv/a/f" ∧ DiskDriver.Confined "srv/a/" "/g" "srv/a/g" ∧
      ("srv/a/f" = "srv/a/g" ↔ "/f" = "/g") := by
  have claims : shelving.ClaimsOwn := (diskOnly_desk _ _ _ _).claimsOwn
  have first : fileOn shelving "/f" "localhost" "srv/a/" = some "srv/a/f" := by decide +kernel
  have second : fileOn shelving "x/.././../g" "localhost" "srv/a/" = some "srv/a/g" := by decide +kernel
  obtain ⟨location, t, chunk, located, member, on_, name⟩ := located_of_fileOn first
  obtain ⟨given, t', chunk', located', member', on', name'⟩ := located_of_fileOn second
  have seen : Path.absolute shelving.workingDir "/f" = "/f" := by decide +kernel
  have seen' : Path.absolute shelving.workingDir "x/.././../g" = "/g" := by decide +kernel
  have both := files_confined_and_distinct claims claims located located' member member' on_ on'
  rw [seen, seen', name, name'] at both
  exact ⟨first, second, both⟩

end Resolution
end Stowage
