import Stowage.Proofs.Creation
import Stowage.Proofs.SpaceAccounts

/-! Where a location to write to points. The driver of disk pools names the file after the path alone, on
the filesystem that it chooses, and looks at no replica. So the file may be that of a replica which is
registered: if the replica was written through a location, too, exactly when both locations are for one
path on one filesystem, or for paths that differ by as much as one root lies within the other. -/
namespace Stowage

/-- The components of a path as they stand in a file name, each after a slash. -/
def Path.tail (names : List String) : List Char :=
  names.flatMap fun name => '/' :: name.toList

namespace Path

variable {names more : List String} {front rest : List Char}

/-- A component ends where the next slash is. -/
theorem append_tail_inj {name other : String} (clean : '/' ∉ name.toList)
    (cleared : '/' ∉ other.toList)
    (same : name.toList ++ tail names = other.toList ++ tail more) :
    name = other ∧ tail names = tail more := by
  have first : ∀ {part : String} (parts : List String), '/' ∉ part.toList →
      (part.toList ++ tail parts).takeWhile (· ≠ '/') = part.toList ∧
        (part.toList ++ tail parts).dropWhile (· ≠ '/') = tail parts := by
    intro part parts clean
    have passed : ∀ c ∈ part.toList, decide (c ≠ '/') = true := by
      rintro c member
      simp only [decide_eq_true_eq]
      rintro rfl
      exact clean member
    rw [List.takeWhile_append_of_pos passed, List.dropWhile_append_of_pos passed]
    cases parts <;> simp [tail]
  have left := first names clean
  have right := first more cleared
  rw [same] at left
  exact ⟨String.toList_inj.1 (left.1.symm.trans right.1), left.2.symm.trans right.2⟩

@[simp]
theorem tail_nil : tail [] = [] := rfl

@[simp]
theorem tail_cons (name : String) (names : List String) :
    tail (name :: names) = '/' :: (name.toList ++ tail names) := rfl

theorem tail_append (names more : List String) : tail (names ++ more) = tail names ++ tail more :=
  List.flatMap_append

theorem tail_eq_nil_iff : tail names = [] ↔ names = [] := by
  cases names <;> simp

/-- A list that goes on with components after one component is cut there or later. -/
theorem cut_of_append_tail {name : String} (clean : '/' ∉ name.toList)
    (same : name.toList ++ rest = front ++ tail more) :
    ∃ between, front = name.toList ++ between ∧ rest = between ++ tail more := by
  rcases List.append_eq_append_iff.1 same with ⟨between, longer, left⟩ | ⟨extra, shorter, left⟩
  · exact ⟨between, longer, left⟩
  · -- A cut within the component would have a slash follow it.
    have none_ : extra = [] := by
      cases extra with
      | nil => rfl
      | cons c others =>
        cases more with
        | nil => simp at left
        | cons other parts =>
          obtain ⟨rfl, -⟩ := List.cons.inj left
          exact absurd (by simp [shorter]) clean
    subst none_
    exact ⟨[], by simpa using shorter.symm, by simpa using left.symm⟩

/-- What ends in components begins with components. -/
theorem tail_eq_append_iff (clean : ∀ name ∈ names, '/' ∉ name.toList)
    (cleared : ∀ name ∈ more, '/' ∉ name.toList) :
    tail names = front ++ tail more ↔ ∃ before, front = tail before ∧ names = before ++ more := by
  refine ⟨fun same => ?_, ?_⟩
  · induction names generalizing front more with
    | nil =>
      obtain ⟨rfl, none_⟩ := List.append_eq_nil_iff.1 same.symm
      exact ⟨[], rfl, (tail_eq_nil_iff.1 none_).symm⟩
    | cons name others ih =>
      have head := clean name List.mem_cons_self
      have later := fun other member => clean other (List.mem_cons_of_mem name member)
      cases front with
      | nil =>
        cases more with
        | nil => simp at same
        | cons other parts =>
          obtain ⟨rfl, rest⟩ := append_tail_inj head (cleared other List.mem_cons_self)
            (List.cons.inj same).2
          have cleared := fun part member => cleared part (List.mem_cons_of_mem name member)
          obtain ⟨before, none_, rfl⟩ : ∃ before, [] = tail before ∧ others = before ++ parts :=
            ih later cleared rest
          obtain rfl := tail_eq_nil_iff.1 none_.symm
          exact ⟨[], rfl, rfl⟩
      | cons c front =>
        obtain ⟨rfl, rest⟩ := List.cons.inj same
        obtain ⟨between, rfl, within⟩ := cut_of_append_tail head rest
        obtain ⟨before, rfl, rfl⟩ := ih later cleared within
        exact ⟨name :: before, rfl, rfl⟩
  · rintro ⟨before, rfl, rfl⟩
    exact tail_append before more

/-- A normal form shows each component after a slash. -/
theorem toList_join (nonempty : names ≠ []) : (join names).toList = tail names := by
  have shown : ∀ (first : List Char) (others : List String),
      ['/'].intercalate (first :: others.map String.toList) = first ++ tail others := by
    intro first others
    induction others generalizing first with
    | nil => simp
    | cons other parts ih => simp [List.intercalate_cons_cons, ih]
  cases names with
  | nil => exact absurd rfl nonempty
  | cons name others =>
    have slash : "/".toList = ['/'] := rfl
    simp [join, String.toList_append, String.toList_intercalate, slash, shown]

end Path

/-- The directory at the root of a filesystem, without the slashes at its end. -/
def Path.bare (root : String) : List Char :=
  (root.toList.reverse.dropWhile (· == '/')).reverse

/-- A place for a file: the filesystem of a server and the components of the logical path. -/
structure Spot where
  server : String
  root : String
  names : List String
  proper : ∀ name ∈ names, Path.IsComponent name
  nonempty : names ≠ []

namespace Spot

/-- The name of the file that the driver of disk pools writes there. -/
def file (spot : Spot) : String :=
  DiskDriver.physicalName spot.root (Path.join spot.names)

/-- The filesystem of the inner spot lies in that of the outer one, and the path of the outer spot leads
there and on by the path of the inner. -/
def Covers (outer inner : Spot) : Prop :=
  ∃ between, Path.bare inner.root = Path.bare outer.root ++ Path.tail between ∧
    outer.names = between ++ inner.names

/-- The spots are on one server and are for one file: one path on one filesystem, or paths that make up
for how the filesystems are nested. -/
def Meets (here there : Spot) : Prop :=
  here.server = there.server ∧ (here.Covers there ∨ there.Covers here)

theorem clean (spot : Spot) : ∀ name ∈ spot.names, '/' ∉ name.toList :=
  fun name member => (spot.proper name member).2.2.2

/-- The name of a file is the directory of its filesystem and then the components of the path. -/
theorem toList_file (spot : Spot) :
    spot.file.toList = Path.bare spot.root ++ Path.tail spot.names := by
  obtain ⟨server, root, names, proper, nonempty⟩ := spot
  unfold file DiskDriver.physicalName
  rw [String.toList_ofList, Path.toList_join nonempty]
  cases names with
  | nil => exact absurd rfl nonempty
  | cons name others =>
    obtain ⟨filled, -, -, clean⟩ := proper name List.mem_cons_self
    have stops : (name.toList ++ Path.tail others).dropWhile (· == '/') =
        name.toList ++ Path.tail others := by
      cases letters : name.toList with
      | nil => exact absurd (String.toList_inj.1 letters) filled
      | cons c rest =>
        rw [letters] at clean
        have other : c ≠ '/' := fun same => clean (same ▸ List.mem_cons_self)
        simp [other]
    simp only [Path.tail_cons, List.dropWhile_cons, beq_self_eq_true, if_true, stops]
    rfl

/-- Two spots have files of one name exactly if one of them covers the other. -/
theorem file_eq_iff (here there : Spot) :
    here.file = there.file ↔ here.Covers there ∨ there.Covers here := by
  have cut : ∀ (outer inner : Spot) (front : List Char),
      (Path.bare inner.root = Path.bare outer.root ++ front ∧
        Path.tail outer.names = front ++ Path.tail inner.names) ↔
      ∃ between, front = Path.tail between ∧
        Path.bare inner.root = Path.bare outer.root ++ Path.tail between ∧
        outer.names = between ++ inner.names := by
    intro outer inner front
    rw [Path.tail_eq_append_iff outer.clean inner.clean]
    constructor
    · rintro ⟨root, between, rfl, names⟩
      exact ⟨between, rfl, root, names⟩
    · rintro ⟨between, rfl, root, names⟩
      exact ⟨root, between, rfl, names⟩
  rw [← String.toList_inj, toList_file, toList_file, List.append_eq_append_iff]
  simp only [cut, Covers]
  refine or_congr ?_ ?_ <;>
    exact ⟨fun ⟨_, between, _, found⟩ => ⟨between, found⟩, fun ⟨between, found⟩ =>
      ⟨_, between, rfl, found⟩⟩

end Spot

/-- The location is for the file of the spot. -/
def Location.Names (location : Location) (spot : Spot) : Prop :=
  ∃ chunk, location.chunks = [chunk] ∧ chunk.host = spot.server ∧ chunk.path = spot.file

/-- The location is for the physical file of the replica, on its server. -/
def Location.Occupies (location : Location) (row : Replica) : Prop :=
  ∃ chunk ∈ location.chunks, chunk.host = row.server ∧ chunk.path = row.physicalPath

/-- The row stands for what was written through the location, as a report registers it. -/
def Location.Wrote (location : Location) (row : Replica) : Prop :=
  ∃ chunk, location.first = .ok chunk ∧ row.server = chunk.host ∧
    row.rfn = chunk.host ++ ":" ++ chunk.path

/-- The stack writes the path to that spot: on the filesystem that is chosen in a pool of the listing,
under the components of the path. -/
def OnSite.Chooses (s : OnSite) (path : String) (spot : Spot) : Prop :=
  (∃ pools pool filesystems fs, StackM.pools (.list .any) s = .ok pools s ∧ pool ∈ pools ∧
    pool.filesystems = .ok filesystems ∧ Filesystem.choose filesystems = some fs ∧
    fs.server = spot.server ∧ fs.path = spot.root) ∧
  ∃ outer session ns, s.BrowsesThrough outer session ns ∧ session.names path = spot.names

namespace Resolution

variable {s t : OnSite} {path : String} {location : Location} {row : Replica} {spot : Spot}

/-- The physical path of a row that was written is that of its chunk. -/
theorem physicalPath_of_wrote {chunk : Chunk} (clean : ':' ∉ chunk.host.toList)
    (name : row.rfn = chunk.host ++ ":" ++ chunk.path) : row.physicalPath = chunk.path := by
  unfold Replica.physicalPath
  rw [name, show ":" = String.singleton ':' from rfl, Text.cut_append clean]

theorem occupies_iff (named : location.Names spot) :
    location.Occupies row ↔ row.server = spot.server ∧ row.physicalPath = spot.file := by
  obtain ⟨chunk, chunks, server, file⟩ := named
  simp only [Location.Occupies, chunks, List.mem_singleton, exists_eq_left, server, file]
  exact and_congr eq_comm eq_comm

/-- A location is for the file of a row that was written through another one exactly if the spots of the
two locations meet. -/
theorem occupies_iff_meets {there : Spot} {given : Location} (named : location.Names spot)
    (other : given.Names there) (wrote : given.Wrote row) (clean : ':' ∉ there.server.toList) :
    location.Occupies row ↔ spot.Meets there := by
  obtain ⟨chunk, chunks, server, file⟩ := other
  obtain ⟨first, here, rowServer, rowName⟩ := wrote
  obtain rfl : first = chunk := by
    simp only [Location.first, chunks] at here
    exact (Except.ok.inj here).symm
  rw [occupies_iff named, physicalPath_of_wrote (server ▸ clean) rowName, rowServer, server, file,
    Spot.Meets, ← Spot.file_eq_iff]
  exact and_congr eq_comm eq_comm

/-- A path that a location to write to is given for has components, for the root is a directory. -/
theorem names_of_located (trees : ∀ id, (s.site.namespace_ id).Tree)
    (located : whereToWrite path s = .ok location t) :
    ∃ outer session ns, s.BrowsesThrough outer session ns ∧ session.names path ≠ [] := by
  obtain ⟨target, _, u, there, _, _, _, seen, -, prepares, asked, -⟩ := whereToWrite_eq_ok located
  obtain ⟨-, looked⟩ := entryExists_eq_ok asked
  have answered : (∃ entry, StackM.catalog (.entry target) u = .ok entry u) ∨
      ∃ e, StackM.catalog (.entry target) u = .error e u ∧ e.kind = .fileNotFound := by
    rcases looked with ⟨-, entry, found, -⟩ | ⟨-, e, missed, kind⟩
    · exact .inl ⟨entry, found⟩
    · exact .inr ⟨e, missed, kind⟩
  obtain ⟨outer, session, ns, browses⟩ := OnSite.browses_of_entry answered
  have before := prepares.browsesThrough.1 browses
  refine ⟨outer, session, ns, before, fun top => ?_⟩
  obtain rfl : target = Path.absolute session.workingDir path := by
    have absolute := OnSite.absolute_apply before path
    rw [seen] at absolute
    cases absolute
    rfl
  have tree : ns.Tree := by
    obtain ⟨_, id, -, rfl⟩ := before
    exact trees id
  obtain ⟨root, stands, directory⟩ := tree.at?_nil
  rcases looked with ⟨-, entry, found, plain⟩ | ⟨-, e, missed, kind⟩
  · obtain ⟨ctx, -, reaches⟩ := OnSite.reaches_of_entry browses found
    rw [CatalogSession.names_absolute, top] at reaches
    have same := Namespace.at?_of_reaches reaches
    rw [stands] at same
    cases same
    rw [directory] at plain
    cases plain
  · have none_ := OnSite.at?_of_missed browses missed kind
    rw [CatalogSession.names_absolute, top, stands] at none_
    cases none_

/-- A location to write to is for the spot that is chosen for the path. -/
theorem spot_of_located (disks : s.DiskOnly) (trees : ∀ id, (s.site.namespace_ id).Tree)
    (located : whereToWrite path s = .ok location t) :
    ∃ spot, s.Chooses path spot ∧ location.Names spot := by
  obtain ⟨outer, session, ns, browses, nonempty⟩ := names_of_located trees located
  obtain ⟨target, pools, _, _, pool, offered, _, seen, listing, -, -, member, offers, -, -, rfl⟩ :=
    whereToWrite_eq_ok located
  obtain ⟨filesystems, fs, token, readable, chosen, rfl⟩ := offers.chosen disks
  obtain rfl : target = Path.absolute session.workingDir path := by
    have absolute := OnSite.absolute_apply browses path
    rw [seen] at absolute
    cases absolute
    rfl
  let spot : Spot :=
    { server := fs.server, root := fs.path, names := session.names path
      proper := fun _ => Path.isComponent_of_mem_split, nonempty }
  have text : Path.join (session.names path) = Path.absolute session.workingDir path := by
    obtain ⟨components, proper, same⟩ := Path.absolute_eq_join session.workingDir path
    rw [CatalogSession.names, same, Path.split_join proper]
  refine ⟨spot, ⟨⟨pools, pool, filesystems, fs, listing, member, readable, chosen, rfl, rfl⟩,
    outer, session, ns, browses, rfl⟩, _, rfl, rfl, ?_⟩
  unfold Spot.file
  rw [text]
  rfl

end Resolution

namespace Runs

variable {start office : Office} {deeds : List Deed} {path : String} {location : Location}

/-- Where namespaces are trees, they stay trees. -/
theorem trees (run : Runs start deeds office) (trees : ∀ id, (start.site.namespace_ id).Tree)
    (id : FactoryId) : (office.site.namespace_ id).Tree :=
  run.namespace_ (fun _ r tree => tree.after r) (trees id)

/-- Where a location to write to points in a run, and whom it finds there. It is for the spot that is
chosen for the path, and so for the physical file of every registered replica with that server and that
file name. Every such replica was registered at the start or has been reported; if what was reported was
written through a location that a stack was given, the new location is for the same file exactly if the
spots of the two meet. -/
theorem occupied_iff_of_issued (run : Runs start deeds office) (disks : ∀ i, (start.at_ i).DiskOnly)
    (trees : ∀ id, (start.site.namespace_ id).Tree) {i : Nat}
    (issued : office.outcome i (.write path) = .ok (some location)) :
    ∃ spot, (office.at_ i).Chooses path spot ∧ location.Names spot ∧
      ∀ id row, office.site.Registers id row →
        (location.Occupies row ↔ row.server = spot.server ∧ row.physicalPath = spot.file) ∧
        (start.site.Registers id row ∨
          ∃ deed ∈ deeds, ∃ given size, deed.move = .done given size ∧ given.Wrote row ∧
            ∀ before, Issued deeds before given →
              ∃ past earlier j there, Runs start past earlier ∧
                (earlier.at_ j).Chooses before there ∧ given.Names there ∧
                (':' ∉ there.server.toList → (location.Occupies row ↔ spot.Meets there))) := by
  obtain ⟨t, located⟩ := located_of_outcome issued
  obtain ⟨spot, chosen, named⟩ :=
    Resolution.spot_of_located (run.diskOnly disks i) (run.trees trees) located
  refine ⟨spot, chosen, named, fun id row registered => ⟨Resolution.occupies_iff named, ?_⟩⟩
  rcases run.registered registered with first | ⟨deed, member, given, size, chunk, done, here, wrote⟩
  · exact .inl first
  · refine .inr ⟨deed, member, given, size, done, ⟨chunk, here, wrote⟩, ?_⟩
    rintro before ⟨j, answered⟩
    obtain ⟨past, earlier, u, ran, found⟩ := run.located_by answered
    obtain ⟨there, chosen, other⟩ :=
      Resolution.spot_of_located (ran.diskOnly disks j) (ran.trees trees) found
    exact ⟨past, earlier, j, there, ran, chosen, other,
      Resolution.occupies_iff_meets named other ⟨chunk, here, wrote⟩⟩

/-- Both stacks are given the same file to write, the second when the first has reported its write. -/
theorem replica_to_be_overwritten :
    (∃ deeds, Runs pair deeds reported) ∧ (∀ i, (pair.at_ i).DiskOnly) ∧
      (∀ id, (pair.site.namespace_ id).Tree) ∧
      reported.outcome 1 (.write "/f") = .ok (some (given reported 1 "/f")) ∧
      ∃ row, reported.site.Registers 1 row ∧ (given reported 1 "/f").Occupies row := by
  have run : Runs pair _ reported := ((Runs.start.move 0 _).transfer _).move 0 _
  have disks : ∀ i, (pair.at_ i).DiskOnly := fun _ => OnSite.diskOnly_desk _ _ _ _
  have told : reported.outcome 1 (.write "/f") = .ok (some (given reported 1 "/f")) :=
    outcome_of_given (by decide +kernel)
  have trees : ∀ id, (pair.site.namespace_ id).Tree := fun id =>
    (OnSite.reachable_desk .root _ _ .initial id).tree
  refine ⟨⟨_, run⟩, disks, trees, told, ?_⟩
  obtain ⟨spot, -, ⟨chunk, chunks, server, file⟩, occupied⟩ :=
    occupied_iff_of_issued run disks trees told
  have row_there : ∃ row ∈ (reported.site.namespace_ 1).replicas.values,
      row.server = "localhost" ∧ row.physicalPath = "srv/a/f" := by
    have rows : (reported.site.namespace_ 1).replicas.values.any
        (fun row => row.server = "localhost" ∧ row.physicalPath = "srv/a/f") = true := by
      decide +kernel
    simpa using rows
  have place : (given reported 1 "/f").chunks.map (fun chunk => (chunk.host, chunk.path)) =
      [("localhost", "srv/a/f")] := by
    decide +kernel
  rw [chunks, List.map_singleton, server, file, List.singleton_inj] at place
  obtain ⟨host, name⟩ := Prod.mk.inj place
  obtain ⟨row, registered, rowServer, rowName⟩ := row_there
  refine ⟨row, registered, (occupied 1 row registered).1.2 ?_⟩
  rw [host, name]
  exact ⟨rowServer, rowName⟩

end Runs
end Stowage
