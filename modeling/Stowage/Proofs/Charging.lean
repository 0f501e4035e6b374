import Mathlib.Data.List.Pairwise
import Stowage.Manager.Factory
import Stowage.Proofs.FilesystemChoice
import Stowage.Resolution.Write

/-! What a write takes off a pool. The filesystem that is charged is found again by the server and the
path that the location recorded, and nothing else of the pool changes. In pools that were set up by
options no two filesystems have server and path in common, so that of all filesystems of a pool the one
is charged that the write was placed on. -/
namespace Stowage

namespace Attributes

/-- The text under a key, if it is one. -/
def text? (attrs : Attributes) (key : String) : Option String :=
  (attrs.get? key).bind Json.str?

theorem text?_of_str {attrs : Attributes} {key default word : String}
    (read : attrs.str key default = .ok word) : (attrs.text? key).getD default = word := by
  unfold str at read
  unfold text?
  cases found : attrs.get? key with
  | none =>
    rw [found] at read
    exact Except.ok.inj read
  | some value =>
    rw [found] at read
    cases value with
    | str s => exact Except.ok.inj read
    | null | bool | int | decimal | arr | obj => cases read

/-- What is not the default was there. -/
theorem text?_eq_some {attrs : Attributes} {key default word : String}
    (read : attrs.str key default = .ok word) (other : word ≠ default) :
    attrs.text? key = some word := by
  have told := text?_of_str read
  cases found : attrs.text? key with
  | none =>
    rw [found] at told
    exact absurd told.symm other
  | some value =>
    rw [found] at told
    exact congrArg some told

end Attributes

namespace Filesystem

/-- The filesystem with this much less free space, or none left. -/
def less (fs : Filesystem) (size : Nat) : Filesystem :=
  { fs with free := UInt64.ofNat (fs.free.toNat - size) }

@[simp] theorem toNat_free_less (fs : Filesystem) (size : Nat) :
    (fs.less size).free.toNat = fs.free.toNat - size := by
  have fits : fs.free.toNat - size < UInt64.size :=
    Nat.lt_of_le_of_lt (Nat.sub_le _ _) fs.free.toNat_lt
  exact UInt64.toNat_ofNat_of_lt' fits

@[simp] theorem less_zero (fs : Filesystem) : fs.less 0 = fs := by
  unfold less
  rw [Nat.sub_zero, UInt64.ofNat_toNat]

/-- Taking off twice is taking off the sum. -/
theorem less_less (fs : Filesystem) (first second : Nat) :
    (fs.less first).less second = fs.less (first + second) := by
  have free := toNat_free_less fs first
  unfold less at free ⊢
  simp only [free, Nat.sub_sub]

/-- The two are not at one place. -/
def Apart (a b : Filesystem) : Prop :=
  ¬ (a.server = b.server ∧ a.path = b.path)

theorem nodup_of_apart {filesystems : List Filesystem} (apart : filesystems.Pairwise Apart) :
    filesystems.Nodup := by
  refine apart.imp fun {a b} distinct same => distinct ?_
  rw [same]
  exact ⟨rfl, rfl⟩

end Filesystem

namespace DiskDriver

variable {written : Filesystem → Bool} {spent : Filesystem → Nat} {size : Nat}
  {filesystems : List Filesystem}

@[simp] theorem wroteTo_less (replica : Replica) (root : String) (fs : Filesystem) (size : Nat) :
    wroteTo replica root (fs.less size) = wroteTo replica root fs := rfl

/-- What is charged to filesystems that have been charged before adds up, for the one that the write went
to. -/
theorem charge_map_less (blind : ∀ fs size, written (fs.less size) = written fs)
    (distinct : filesystems.Nodup) :
    charge written size (filesystems.map fun fs => fs.less (spent fs)) =
      filesystems.map fun fs =>
        fs.less (spent fs + if filesystems.find? written = some fs then size else 0) := by
  induction filesystems with
  | nil => rfl
  | cons fs rest ih =>
    obtain ⟨new, distinct⟩ := List.nodup_cons.1 distinct
    -- The head is the one that is found, or else it is not, and then it is no later one either.
    by_cases here : written fs = true
    · have others : ∀ other ∈ rest, ¬ fs = other := fun other member same => new (same ▸ member)
      simp only [List.map_cons, charge, blind, here, if_true, List.find?_cons, Option.some.injEq]
      refine congrArg₂ List.cons (Filesystem.less_less fs (spent fs) size) ?_
      exact List.map_congr_left fun other member => by simp [others other member]
    · have missed : rest.find? written ≠ some fs := fun found => new (List.mem_of_find?_eq_some found)
      simp only [List.map_cons, charge, blind, here, if_false, List.find?_cons, ih distinct, missed,
        Nat.add_zero, Bool.false_eq_true]

end DiskDriver

/-- Of the filesystems of its pool, the one that a chunk was placed on. -/
def Chunk.within (chunk : Chunk) (filesystems : List Filesystem) : Option Filesystem :=
  filesystems.find? (DiskDriver.wroteTo
    { server := chunk.host, rfn := chunk.host ++ ":" ++ chunk.path }
    ((chunk.attrs.text? Chunk.filesystemKey).getD ""))

/-- Whether the location was placed on this one of the filesystems of the pool. -/
def Location.isOn (location : Location) (name : String) (filesystems : List Filesystem)
    (fs : Filesystem) : Bool :=
  location.chunks.head?.any fun chunk =>
    chunk.attrs.text? Chunk.poolKey = some name ∧ chunk.within filesystems = some fs

theorem Location.isOn_of_first {location : Location} {chunk : Chunk}
    (first : location.first = .ok chunk) (name : String) (filesystems : List Filesystem)
    (fs : Filesystem) : location.isOn name filesystems fs =
      decide (chunk.attrs.text? Chunk.poolKey = some name ∧ chunk.within filesystems = some fs) := by
  obtain ⟨chunks⟩ := location
  cases chunks with
  | nil => cases first
  | cons head rest =>
    cases first
    rfl

/-- A chunk that records server and path of a filesystem was placed there. -/
theorem Chunk.within_of_recorded {chunk : Chunk} {filesystems : List Filesystem} {fs : Filesystem}
    (apart : filesystems.Pairwise Filesystem.Apart) (member : fs ∈ filesystems)
    (rooted : fs.path ≠ "") (host : chunk.host = fs.server)
    (recorded : chunk.attrs.text? Chunk.filesystemKey = some fs.path) :
    chunk.within filesystems = some fs := by
  have places : ∀ other : Filesystem, DiskDriver.wroteTo
      { server := chunk.host, rfn := chunk.host ++ ":" ++ chunk.path } fs.path other = true ↔
        other.server = fs.server ∧ other.path = fs.path := by
    intro other
    simp [DiskDriver.wroteTo, rooted, host]
  unfold within
  rw [recorded, Option.getD_some]
  induction filesystems with
  | nil => cases member
  | cons first rest ih =>
    obtain ⟨distinct, apart⟩ := List.pairwise_cons.1 apart
    rcases List.mem_cons.1 member with rfl | later
    · rw [List.find?_cons_of_pos ((places fs).2 ⟨rfl, rfl⟩)]
    · rw [List.find?_cons_of_neg fun same => distinct fs later ((places first).1 same)]
      exact ih apart later

namespace Chunk

theorem text?_tag (chunk : Chunk) (key word : String) :
    (chunk.tag key (.str word)).attrs.text? key = some word := by
  unfold tag Attributes.text?
  rw [Table.get?_insert, if_pos rfl]
  rfl

theorem text?_tag_of_ne (chunk : Chunk) {key other : String} (ne : key ≠ other) (value : Json) :
    (chunk.tag other value).attrs.text? key = chunk.attrs.text? key := by
  unfold tag Attributes.text?
  rw [Table.get?_insert, if_neg ne]

end Chunk

/-- A location that is marked with its pool and its file was placed on the filesystem that its chunk
records. -/
theorem Location.isOn_of_recorded {chunk : Chunk} {filesystems : List Filesystem} {fs : Filesystem}
    (apart : filesystems.Pairwise Filesystem.Apart) (member : fs ∈ filesystems)
    (rooted : fs.path ≠ "") (host : chunk.host = fs.server) (name path : String) :
    (((⟨[chunk.tag Chunk.filesystemKey (.str fs.path)]⟩ : Location).tag Chunk.poolKey (.str name)).tag
      Chunk.nameKey (.str path)).isOn name filesystems fs = true := by
  let marked := ((chunk.tag Chunk.filesystemKey (.str fs.path)).tag Chunk.poolKey (.str name)).tag
    Chunk.nameKey (.str path)
  have pooled : marked.attrs.text? Chunk.poolKey = some name := by
    rw [Chunk.text?_tag_of_ne _ (by decide), Chunk.text?_tag]
  have recorded : marked.attrs.text? Chunk.filesystemKey = some fs.path := by
    rw [Chunk.text?_tag_of_ne _ (by decide), Chunk.text?_tag_of_ne _ (by decide), Chunk.text?_tag]
  have first : ((((⟨[chunk.tag Chunk.filesystemKey (.str fs.path)]⟩ : Location).tag Chunk.poolKey
      (.str name)).tag Chunk.nameKey (.str path))).first = .ok marked := rfl
  rw [Location.isOn_of_first first]
  exact decide_eq_true ⟨pooled, Chunk.within_of_recorded apart member rooted host recorded⟩

/-- The filesystems of a pool, no two of them at one place. -/
structure Pool.Laid (pool : Pool) (filesystems : List Filesystem) : Prop where
  readable : pool.filesystems = .ok filesystems
  apart : filesystems.Pairwise Filesystem.Apart
  rooted : ∀ fs ∈ filesystems, fs.path ≠ ""

/-- The pool as it was, but for the free space of its filesystems, which have had something taken off. -/
structure Pool.Charged (spent : List Filesystem → Filesystem → Nat) (before after : Pool) : Prop where
  name : after.name = before.name
  type : after.type = before.type
  attrs : ∀ key, key ≠ filesystemsKey → after.attrs.get? key = before.attrs.get? key
  filesystems : ∃ filesystems, before.filesystems = .ok filesystems ∧
    after.filesystems = .ok (filesystems.map fun fs => fs.less (spent filesystems fs))

namespace Pool

variable {before after updated : Pool} {filesystems : List Filesystem} {chunk : Chunk} {entry : Entry}
  {size : Nat} {spent : List Filesystem → Filesystem → Nat}

theorem Laid.charged (laid : before.Laid filesystems) : before.Charged (fun _ _ => 0) before where
  name := rfl
  type := rfl
  attrs _ _ := rfl
  filesystems := ⟨filesystems, laid.readable, by simp [laid.readable]⟩

/-- A filesystem that is added takes the place of the one that was there. -/
theorem Laid.add {pool : Pool} {fs : Filesystem} (laid : pool.Laid filesystems) (rooted : fs.path ≠ "") :
    let joined := (filesystems.filter fun old => ¬ (old.server = fs.server ∧ old.path = fs.path)) ++ [fs]
    (pool.withFilesystems joined).Laid joined := by
  refine ⟨filesystems_withFilesystems _ _, ?_, ?_⟩
  · refine List.pairwise_append.2 ⟨laid.apart.sublist List.filter_sublist,
      List.pairwise_singleton _ _, fun old member new same both => ?_⟩
    obtain rfl := List.mem_singleton.1 same
    have elsewhere := (List.mem_filter.1 member).2
    simp [both.1, both.2] at elsewhere
  · intro other member
    rcases List.mem_append.1 member with old | new
    · exact laid.rooted other (List.mem_filter.1 old).1
    · obtain rfl := List.mem_singleton.1 new
      exact rooted

/-- A report charges the filesystem that the chunk was placed on. -/
theorem updated_of_counted (readable : after.filesystems = .ok filesystems)
    (counted : DiskDriver.writeDone after (Resolution.writtenReplica chunk after entry) size =
      .ok updated) :
    updated = after.withFilesystems (DiskDriver.charge (DiskDriver.wroteTo
      { server := chunk.host, rfn := chunk.host ++ ":" ++ chunk.path }
      ((chunk.attrs.text? Chunk.filesystemKey).getD "")) size filesystems) := by
  obtain ⟨_, same, rest⟩ := Error.bind_eq_ok_iff.1 counted
  obtain rfl := Except.ok.inj (same.symm.trans readable)
  obtain ⟨root, read, returned⟩ := Error.bind_eq_ok_iff.1 rest
  have recorded : (Resolution.writtenReplica chunk after entry).attrs.get? Chunk.filesystemKey =
      chunk.attrs.get? Chunk.filesystemKey := by
    unfold Resolution.writtenReplica
    cases chunk.attrs.get? Chunk.filesystemKey with
    | none => rfl
    | some value => simp only [Table.get?_insert, if_true]
  have told := Attributes.text?_of_str read
  unfold Attributes.text? at told ⊢
  rw [recorded] at told
  rw [told]
  exact (Except.ok.inj returned).symm

/-- Of a pool that has been charged before, the filesystem that the chunk was placed on is charged with
the size in addition. -/
theorem Charged.counted (charged : before.Charged spent after) (laid : before.Laid filesystems)
    (counted : DiskDriver.writeDone after (Resolution.writtenReplica chunk after entry) size =
      .ok updated) :
    before.Charged (fun filesystems fs =>
      spent filesystems fs + if chunk.within filesystems = some fs then size else 0) updated := by
  obtain ⟨known, stored, readable⟩ := charged.filesystems
  obtain rfl := Except.ok.inj (stored.symm.trans laid.readable)
  rw [updated_of_counted readable counted]
  refine ⟨charged.name, charged.type, fun key other => ?_, known, stored, ?_⟩
  · rw [attrs_withFilesystems _ _ other]
    exact charged.attrs key other
  · rw [filesystems_withFilesystems]
    exact congrArg Except.ok
      (DiskDriver.charge_map_less (DiskDriver.wroteTo_less _ _) (Filesystem.nodup_of_apart laid.apart))

end Pool

/-- The tables that options set up. -/
inductive MemoryTables.Configured : MemoryTables → Prop where
  | initial : Configured {}
  | option {t next : MemoryTables} (configured : t.Configured) (key value : String)
      (taken : t.configure key value = .ok next) : Configured next

/-- Every pool goes by its own name, and its filesystems are at places of their own. -/
structure PoolTable.SetUp (t : PoolTable) : Prop where
  ordered : t.Ordered
  named : ∀ {name pool}, t.get? name = some pool → pool.name = name
  laid : ∀ {name pool}, t.get? name = some pool → ∃ filesystems, pool.Laid filesystems

namespace PoolTable

variable {t next : PoolTable} {pool : Pool} {filesystems : List Filesystem} {name : String}
  {fs : Filesystem}

/-- No pool is left out of a listing of all pools. -/
theorem list_any (t : PoolTable) : t.list .any = .ok t.values := by
  have admitted : ∀ pool : Pool, (do
      return if ← PoolAvailability.any.admits pool then some pool else none :
        Except Error (Option Pool)) = .ok (some pool) := fun _ => rfl
  unfold list
  simp only [admitted]
  induction t.values with
  | nil => rfl
  | cons pool rest ih =>
    simp_all [List.filterMapM_cons, bind, Except.bind, pure, Except.pure]

theorem pool_eq_ok_iff : t.pool name = .ok pool ↔ t.get? name = some pool := by
  unfold PoolTable.pool
  cases t.get? name <;> simp

theorem setUp_empty : SetUp ∅ where
  ordered := List.Pairwise.nil
  named := nofun
  laid := nofun

theorem SetUp.insert (up : t.SetUp) (laid : pool.Laid filesystems) :
    SetUp (t.insert pool.name pool) where
  ordered := Table.ordered_insert up.ordered _ _
  named := by
    intro name found there
    rw [Table.get?_insert] at there
    split at there
    · rename_i here
      cases there
      exact here.symm
    · exact up.named there
  laid := by
    intro name found there
    rw [Table.get?_insert] at there
    split at there
    · cases there
      exact ⟨filesystems, laid⟩
    · exact up.laid there

/-- What is added to a pool that can be read takes the place of what was there, behind all others. -/
theorem addFilesystem_eq_ok (added : t.addFilesystem name fs = .ok next) :
    ∃ pool before, t.get? name = some pool ∧ pool.filesystems = .ok before ∧
      next = t.insert name (pool.withFilesystems
        ((before.filter fun old => ¬ (old.server = fs.server ∧ old.path = fs.path)) ++ [fs])) := by
  obtain ⟨pool, known, rest⟩ := Error.bind_eq_ok_iff.1 added
  obtain ⟨larger, joined, returned⟩ := Error.bind_eq_ok_iff.1 rest
  obtain ⟨before, readable, kept⟩ := Error.bind_eq_ok_iff.1 joined
  cases returned
  cases kept
  exact ⟨pool, before, pool_eq_ok_iff.1 known, readable, rfl⟩

theorem SetUp.addFilesystem (up : t.SetUp) (rooted : fs.path ≠ "")
    (added : t.addFilesystem name fs = .ok next) : next.SetUp := by
  obtain ⟨pool, before, found, readable, rfl⟩ := addFilesystem_eq_ok added
  obtain ⟨filesystems, laid⟩ := up.laid found
  obtain rfl := Except.ok.inj (readable.symm.trans laid.readable)
  obtain rfl := up.named found
  exact up.insert (laid.add rooted)

end PoolTable

/-- A pool that an option tells has no filesystems yet. -/
theorem Pool.laid_of_parse {value : String} {pool : Pool} (told : Pool.parse value = .ok pool) :
    pool.Laid [] := by
  unfold Pool.parse at told
  dsimp only at told
  split at told
  · cases told
  · split at told
    · cases told
    · cases told
      exact ⟨rfl, List.Pairwise.nil, nofun⟩

/-- A filesystem that an option tells has a server and a path. -/
theorem Filesystem.placed_of_parse {value name : String} {fs : Filesystem}
    (told : Filesystem.parse value = .ok (name, fs)) : fs.server ≠ "" ∧ fs.path ≠ "" := by
  unfold Filesystem.parse at told
  dsimp only at told
  split at told
  · split at told
    · cases told
    · rename_i pool server path options _ refused
      have given : server ≠ "" ∧ path ≠ "" :=
        ⟨fun empty => refused (.inr (.inl empty)), fun empty => refused (.inr (.inr (.inl empty)))⟩
      split at told
      · split at told
        · split at told <;>
          · obtain ⟨status, -, returned⟩ := Error.bind_eq_ok_iff.1 told
            cases returned
            exact given
        · cases told
      · cases told
  · cases told

/-- Whatever options there were, the pools that they set up are in order. -/
theorem MemoryTables.Configured.setUp {t : MemoryTables} (configured : t.Configured) :
    t.pools.SetUp := by
  induction configured with
  | initial => exact PoolTable.setUp_empty
  | @option t next configured key value taken ih =>
    unfold MemoryTables.configure at taken
    split at taken
    · obtain ⟨account, -, returned⟩ := Error.bind_eq_ok_iff.1 taken
      cases returned
      exact ih
    split at taken
    · obtain ⟨group, -, returned⟩ := Error.bind_eq_ok_iff.1 taken
      cases returned
      exact ih
    split at taken
    · obtain ⟨pool, told, returned⟩ := Error.bind_eq_ok_iff.1 taken
      cases returned
      exact ih.insert (Pool.laid_of_parse told)
    split at taken
    · obtain ⟨⟨name, fs⟩, told, rest⟩ := Error.bind_eq_ok_iff.1 taken
      obtain ⟨pools, added, returned⟩ := Error.bind_eq_ok_iff.1 rest
      cases returned
      exact ih.addFilesystem (Filesystem.placed_of_parse told).2 added
    · cases taken

end Stowage
