import Stowage.Proofs.SharedSettings
import Stowage.Proofs.SpaceAccounts
import Stowage.Proofs.TokenFields

/-! Chunks that are issued can be opened. A driver signs with the settings of its site and for the identity of
its stack, and a node for local files checks with the settings of its site and for the identity of its own
stack. Both read the identity from a place of their own, so what joins them is that a stack holds one identity
in all its seats. -/
namespace Stowage

namespace Token

variable {now later : Int} {lifetime : Nat} {id file secret : String} {granted wanted : Bool}

theorem issue_ne_empty : issue now id file secret lifetime granted ≠ "" := by
  intro empty
  have none_ := congrArg String.length empty
  simp [issue] at none_

/-- A token that is checked for what it was issued for is good until it runs out, and for what was granted. -/
theorem check_own (started : -0x8000000000000000 ≤ now) :
    check later (issue now id file secret lifetime granted) id file secret wanted =
      if expiry now lifetime < later then .expired
      else if wanted ∧ ¬ granted then .wrongMode
      else .valid := by
  rw [check_issue started, if_neg]
  exact fun unsigned => unsigned id List.mem_cons_self rfl

theorem check_own_eq_valid_iff (started : -0x8000000000000000 ≤ now) :
    check later (issue now id file secret lifetime granted) id file secret wanted = .valid ↔
      later ≤ expiry now lifetime ∧ (wanted = true → granted = true) := by
  rw [check_own started]
  by_cases late : expiry now lifetime < later
  · simp [late]
  · cases wanted <;> cases granted <;> simp [late, Int.not_lt.1 late]

/-- A token to read is good for no write, whenever, for whom and for whichever file it was issued. -/
theorem check_reading_ne_valid (later : Int) (id' file' secret' : String) :
    check later (issue now id file secret lifetime false) id' file' secret' true ≠ .valid := by
  unfold check
  rw [read?_issue_eq]
  cases Text.readI64? (Text.ofInt (expiry now lifetime)) with
  | none => exact Status.noConfusion
  | some expires =>
    dsimp only [Option.map]
    split
    · exact Status.noConfusion
    · split
      · exact Status.noConfusion
      · rw [if_pos ⟨rfl, Bool.false_ne_true⟩]
        exact Status.noConfusion

end Token

namespace LocalFiles

/-- A file is opened with a token that the check finds valid for the identity of the node. -/
theorem checkToken_eq_ok_iff {l : LocalFiles} {now : Int} {file token : String} {wanted : Bool}
    {attrs : Attributes} (carried : attrs.get? Chunk.tokenKey = some (.str token)) :
    l.checkToken now file wanted attrs = .ok () ↔
      token ≠ "" ∧ ∃ id, l.settings.identity l.security = .ok id ∧
        Token.check now token id file l.settings.secret wanted = .valid := by
  have read : attrs.str Chunk.tokenKey "" = .ok token := by
    unfold Attributes.str
    rw [carried]
    rfl
  unfold checkToken
  rw [read]
  refine (Error.guarded_eq_ok_iff (p := token = "")).trans (and_congr_right fun _ => ?_)
  refine Error.bind_eq_ok_iff.trans (exists_congr fun id => and_congr_right fun _ => ?_)
  by_cases valid : Token.check now token id file l.settings.secret wanted = .valid
  · simp [valid]
    rfl
  · simp [valid]

end LocalFiles

namespace OnSite

variable {s t : OnSite} {granted : Bool} {chunk : Chunk}

/-- The chunk carries a token that the stack's driver for disk pools issues for its file. -/
def Grants (s : OnSite) (granted : Bool) (chunk : Chunk) : Prop :=
  ∃ disk token, s.driverFor DiskDriver.poolType = .ok (.disk disk) ∧
    disk.token s.site.host.now chunk.path granted = .ok token ∧
    chunk.attrs.get? Chunk.tokenKey = some (.str token)

/-- Other attributes are nothing to the token. -/
theorem Grants.tag (grants : s.Grants granted chunk) {key : String} (other : Chunk.tokenKey ≠ key)
    (value : Json) : s.Grants granted (chunk.tag key value) := by
  obtain ⟨disk, token, served, issued, carried⟩ := grants
  refine ⟨disk, token, served, issued, ?_⟩
  unfold Chunk.tag
  rwa [Table.get?_insert, if_neg other]

/-- The driver for disk pools of an equipped stack works with the settings that the manager gives, and for the
identity of the stack. -/
theorem driver_of_equipped (equipped : s.stack.Equipped s.site.manager) (disks : s.DiskOnly)
    {ctx : SecurityContext} (held : s.stack.security = some ctx) {type : String} {disk : DiskDriver}
    (served : s.driverFor type = .ok (.disk disk)) :
    s.site.manager.Gives disk.settings ∧ disk.security = some ctx := by
  unfold driverFor at served
  split at served
  · rename_i kept _ cached
    cases served
    have member := List.mem_of_find?_eq_some cached
    obtain ⟨-, settings, same, gives⟩ := equipped.drivers _ (List.mem_map_of_mem member)
    cases same
    refine ⟨gives, ?_⟩
    have seat : ({ security := disk.security } : Seat) ∈ s.stack.seats := by
      -- The seats of the drivers come last.
      unfold Stack.seats
      iterate 5 refine List.mem_append_right _ ?_
      exact List.mem_map_of_mem (f := fun pair : String × DriverNode => pair.2.seat) member
    exact (equipped.settled ctx held _ seat).2
  · obtain ⟨⟨node, board⟩, made, same⟩ := Error.bind_eq_ok_iff.1 served
    cases same
    obtain ⟨settings, same, gives⟩ := StackM.gives_makeDriver disks made
    cases same
    exact ⟨gives, (StackM.seat_makeDriver made).2.trans held⟩

/-- What a token of an equipped stack says: it was issued with the settings that the manager gives, for the
identity of the stack. -/
theorem Grants.token (grants : s.Grants granted chunk) (equipped : s.stack.Equipped s.site.manager)
    (disks : s.DiskOnly) {ctx : SecurityContext} (held : s.stack.security = some ctx) :
    ∃ settings id, s.site.manager.Gives settings ∧ settings.identity (some ctx) = .ok id ∧
      chunk.attrs.get? Chunk.tokenKey = some (.str
        (Token.issue s.site.host.now id chunk.path settings.secret settings.lifetime granted)) := by
  obtain ⟨disk, token, served, issued, carried⟩ := grants
  obtain ⟨gives, security⟩ := driver_of_equipped equipped disks held served
  obtain ⟨id, bound, same⟩ := Error.bind_eq_ok_iff.1 issued
  cases same
  exact ⟨disk.settings, id, gives, security ▸ bound, carried⟩

/-- The node for local files of an equipped stack works with the settings that the manager gives, and for the
identity of the stack. -/
theorem files_of_equipped {manager : Manager} {stack : Stack} (equipped : stack.Equipped manager)
    {ctx : SecurityContext} (held : stack.security = some ctx) {node : LocalFiles}
    (wired : ∃ chain, stack.io = some chain ∧ chain.base = .localFiles node) :
    manager.Gives node.settings ∧ node.security = some ctx := by
  obtain ⟨chain, wired, inside⟩ := wired
  refine ⟨equipped.files _ ?_, ?_⟩
  · unfold Stack.fileSettings?
    rw [wired, Option.bind_some, inside]
    rfl
  · have seat : ({ security := node.security } : Seat) ∈ stack.seats := by
      -- The seats of the chain for input and output come just before those of the drivers.
      unfold Stack.seats
      iterate 4 refine List.mem_append_right _ ?_
      refine List.mem_append_left _ ?_
      simp [Stack.chainSeats, Chain.seats, wired, inside, IoNode.seats]
    exact (equipped.settled ctx held _ seat).2

end OnSite

namespace Resolution

open OnSite

variable {s t : OnSite} {path : String} {location : Location}

/-- A location to read from comes with a token to read. -/
theorem grants_of_read (disks : s.DiskOnly) (done : whereToRead path s = .ok location t) :
    ∀ chunk ∈ location.chunks, s.Grants false chunk := by
  obtain ⟨target, rows, seen, shown⟩ := shown_of_ok done
  cases rows with
  | nil =>
    rw [whereToRead_of_none seen shown] at done
    cases done
  | cons row rest =>
    rw [whereToRead_of_some seen shown (List.cons_ne_nil row rest)] at done
    obtain ⟨-, c, given, -, ⟨disk, served, made⟩, rfl⟩ := readAmong_eq_ok disks done
    obtain ⟨token, issued, rfl⟩ := readLocation_eq_ok made
    rw [(disks.disk_of_driverFor served).1] at served
    refine List.forall_mem_singleton.2 ?_
    refine ((Grants.tag ?_ (by decide) _).tag (by decide) _).tag (by decide) _
    exact ⟨disk, token, served, issued, by unfold Chunk.tag; rw [Table.get?_insert, if_pos rfl]⟩

/-- A location to write to comes with a token to write. -/
theorem grants_of_written (disks : s.DiskOnly) (done : whereToWrite path s = .ok location t) :
    ∀ chunk ∈ location.chunks, s.Grants true chunk := by
  obtain ⟨target, pools, u, there, pool, offered, v, -, -, -, -, -, offers, -, -, rfl⟩ :=
    whereToWrite_eq_ok done
  obtain ⟨filesystems, fs, disk, token, -, -, served, issued, rfl⟩ := offers.granted disks
  rw [(disks.disk_of_driverFor served).1] at served
  refine List.forall_mem_singleton.2 ?_
  refine ((Grants.tag ?_ (by decide) _).tag (by decide) _).tag (by decide) _
  exact ⟨disk, token, served, issued, by unfold Chunk.tag; rw [Table.get?_insert, if_pos rfl]⟩

end Resolution

namespace Workshop

variable {w next : Workshop} {i : Nat} {granted : Bool} {chunk : Chunk}

/-- A site whose manager was given some settings, with what any steps have made of it. -/
def Reachable (w : Workshop) : Prop :=
  ∃ settings host operations,
    w = (run operations { site := ⟨(Setting.run settings .initial).2, host⟩ }).2

/-- The stack gives the chunk, to read a file or to write it. -/
def Issues (w : Workshop) (i : Nat) (chunk : Chunk) (next : Workshop) (granted : Bool) : Prop :=
  ∃ path location, chunk ∈ location.chunks ∧ match granted with
    | false => w.step (.ask i (.whereToRead path)) = (some (.ok location), next)
    | true => w.step (.ask i (.whereToWrite path)) = (some (.ok location), next)

/-- The identity that the stack works under. -/
def security? (w : Workshop) (i : Nat) : Option SecurityContext :=
  (w.stackAt i).bind Stack.security

/-- The node that the stack opens local files through. -/
def files? (w : Workshop) (i : Nat) : Option LocalFiles := do
  let stack ← w.stackAt i
  let chain ← stack.io
  match chain.base with
  | .localFiles node => some node
  | .plain _ => none

theorem Reachable.equipped (reached : w.Reachable) : w.Equipped := by
  obtain ⟨settings, host, operations, rfl⟩ := reached
  exact equipped_run settings host operations

theorem files?_eq_some {stack : Stack} (there : w.stackAt i = some stack) {node : LocalFiles}
    (opens : w.files? i = some node) : ∃ chain, stack.io = some chain ∧ chain.base = .localFiles node := by
  obtain ⟨_, again, wired⟩ := Option.bind_eq_some_iff.1 opens
  obtain rfl := Option.some.inj (there.symm.trans again)
  obtain ⟨chain, wired, inside⟩ := Option.bind_eq_some_iff.1 wired
  refine ⟨chain, wired, ?_⟩
  split at inside
  · cases inside
    assumption
  · cases inside

theorem withStack_eq_ok {α : Type} {act : StackM α} {a : α}
    (done : w.withStack i act = (some (.ok a), next)) :
    ∃ stack t, w.stackAt i = some stack ∧ act ⟨stack, w.site⟩ = .ok a t := by
  unfold withStack at done
  cases there : w.stackAt i with
  | none =>
    rw [there] at done
    cases done
  | some stack =>
    rw [there] at done
    cases run : act ⟨stack, w.site⟩ with
    | error e t =>
      simp only [Action.outcome_of_error run] at done
      cases done
    | ok answer t =>
      simp only [Action.outcome_of_ok run] at done
      cases done
      exact ⟨stack, t, rfl, run⟩

/-- A chunk that a stack gives carries a token of the stack, and the site makes the same drivers as before. -/
theorem Issues.grants (issues : w.Issues i chunk next granted) (equipped : w.Equipped) :
    w.Equips next ∧ ∃ stack, w.stackAt i = some stack ∧
      (⟨stack, w.site⟩ : OnSite).DiskOnly ∧ (⟨stack, w.site⟩ : OnSite).Grants granted chunk := by
  have disks {stack : Stack} (there : w.stackAt i = some stack) :
      (⟨stack, w.site⟩ : OnSite).DiskOnly :=
    OnSite.diskOnly_of_equipped equipped.pairs (equipped.stack i stack there)
  obtain ⟨path, location, member, asked⟩ := issues
  cases granted with
  | false =>
    have kept := equips_step w (.ask i (.whereToRead path))
    rw [asked] at kept
    obtain ⟨stack, t, there, done⟩ := withStack_eq_ok asked
    exact ⟨kept, stack, there, disks there, Resolution.grants_of_read (disks there) done chunk member⟩
  | true =>
    have kept := equips_step w (.ask i (.whereToWrite path))
    rw [asked] at kept
    obtain ⟨stack, t, there, done⟩ := withStack_eq_ok asked
    exact ⟨kept, stack, there, disks there, Resolution.grants_of_written (disks there) done chunk member⟩

/-- The node of any stack of the site finds the token good for the identity that it was issued for, until it
runs out and for what was granted. -/
theorem Issues.checkToken_eq_ok_iff (issues : w.Issues i chunk next granted) (equipped : w.Equipped)
    (started : -0x8000000000000000 ≤ w.site.host.now) {ctx : SecurityContext}
    (issuing : w.security? i = some ctx) {v : Workshop} (equips : next.Equips v) {j : Nat}
    {other : SecurityContext} {node : LocalFiles} (opening : v.security? j = some other)
    (opens : v.files? j = some node)
    (same : node.settings.identity (some other) = node.settings.identity (some ctx)) {now : Int}
    {wanted : Bool} :
    node.checkToken now chunk.path wanted chunk.attrs = .ok () ↔
      now ≤ Token.expiry w.site.host.now node.settings.lifetime ∧ (wanted = true → granted = true) := by
  obtain ⟨kept, stack, there, disks, grants⟩ := issues.grants equipped
  have equips := Action.Frame.trans kept equips
  obtain ⟨_, again, held⟩ := Option.bind_eq_some_iff.1 issuing
  obtain rfl := Option.some.inj (there.symm.trans again)
  obtain ⟨settings, id, gives, bound, carried⟩ := grants.token (equipped.stack i stack there) disks held
  obtain ⟨opener, found, under⟩ := Option.bind_eq_some_iff.1 opening
  -- The one that signs and the one that checks have the settings that the manager gives, and it gives but one.
  obtain ⟨given, security⟩ :=
    OnSite.files_of_equipped ((equips.stack equipped).stack j opener found) under (files?_eq_some found opens)
  obtain rfl := (equips.site.gives gives).unique given
  rw [LocalFiles.checkToken_eq_ok_iff carried, security, same, bound]
  rw [and_iff_right Token.issue_ne_empty, ← Token.check_own_eq_valid_iff started]
  constructor
  · rintro ⟨_, presented, valid⟩
    cases presented
    exact valid
  · exact fun valid => ⟨id, rfl, valid⟩

end Workshop

/-- Issued chunks open. A token that is checked for the file and the identity it was issued for has run out
once its time is over, is of the wrong mode where a write is asked of a token to read, and is valid otherwise.
So a chunk that a stack gives passes the check of every stack on the site that works for the same identity,
until it runs out, and a chunk to read passes no check for a write. -/
theorem issued_chunks_open :
    (∀ (now later : Int) (lifetime : Nat) (id file secret : String) (granted wanted : Bool),
      -0x8000000000000000 ≤ now →
        Token.check later (Token.issue now id file secret lifetime granted) id file secret wanted =
          if Token.expiry now lifetime < later then .expired
          else if wanted ∧ ¬ granted then .wrongMode
          else .valid) ∧
    (∀ (w next : Workshop) (i j : Nat) (chunk : Chunk) (granted wanted : Bool) (ctx other : SecurityContext)
        (later : List Operation) (node : LocalFiles),
      w.Reachable → -0x8000000000000000 ≤ w.site.host.now →
        w.security? i = some ctx → w.Issues i chunk next granted →
        (Workshop.run later next).2.security? j = some other →
        (Workshop.run later next).2.files? j = some node →
        node.settings.identity (some other) = node.settings.identity (some ctx) →
        (node.checkToken (Workshop.run later next).2.site.host.now chunk.path wanted chunk.attrs = .ok () ↔
          (Workshop.run later next).2.site.host.now ≤
              Token.expiry w.site.host.now node.settings.lifetime ∧
            (wanted = true → granted = true))) ∧
    ∀ (w next : Workshop) (i : Nat) (chunk : Chunk), w.Reachable → w.Issues i chunk next false →
      ∀ (node : LocalFiles) (now : Int) (file : String), node.checkToken now file true chunk.attrs ≠ .ok () := by
  refine ⟨fun _ _ _ _ _ _ _ _ started => Token.check_own started, ?_, ?_⟩
  · intro w next i j chunk granted wanted ctx other later node reached started issuing issues opening opens same
    exact issues.checkToken_eq_ok_iff reached.equipped started issuing (Workshop.equips_run later next) opening
      opens same
  · intro w next i chunk reached issues node now file passed
    obtain ⟨-, stack, -, -, disk, token, -, issued, carried⟩ := issues.grants reached.equipped
    obtain ⟨id, -, same⟩ := Error.bind_eq_ok_iff.1 issued
    cases same
    obtain ⟨-, presented, -, valid⟩ := (LocalFiles.checkToken_eq_ok_iff carried).1 passed
    exact Token.check_reading_ne_valid _ _ _ _ valid

/-- A lifetime counts for no more than the range of time itself. A token that was issued before time began runs
out although its lifetime is not over. -/
theorem Token.expired_within_lifetime :
    Token.check 9223372036854775805 (Token.issue (-5) "alice" "/srv/f" "s3cr3t" 9223372036854775818 false)
        "alice" "/srv/f" "s3cr3t" false = .expired ∧
      ¬ min (-5 + 9223372036854775818 : Int) 9223372036854775807 < 9223372036854775805 := by
  rw [Token.check_own (by decide)]
  decide

namespace Workshop

/-- The answer is a location with chunks. -/
def located : Option (Except Error Location) → Bool
  | some (.ok location) => !location.chunks.isEmpty
  | _ => false

theorem exists_chunk_of_located {answer : Option (Except Error Location)} (given : located answer = true) :
    ∃ location, answer = some (.ok location) ∧ ∃ chunk, chunk ∈ location.chunks := by
  unfold located at given
  split at given
  · rename_i location
    exact ⟨location, rfl, List.exists_mem_of_ne_nil _ (by simpa using given)⟩
  · cases given

theorem issues_of_read {w : Workshop} {i : Nat} {path : String}
    (given : located (w.step (.ask i (.whereToRead path))).1 = true) :
    ∃ chunk, w.Issues i chunk (w.step (.ask i (.whereToRead path))).2 false := by
  obtain ⟨location, answered, chunk, member⟩ := exists_chunk_of_located given
  exact ⟨chunk, path, location, member, Prod.ext answered rfl⟩

theorem issues_of_written {w : Workshop} {i : Nat} {path : String}
    (given : located (w.step (.ask i (.whereToWrite path))).1 = true) :
    ∃ chunk, w.Issues i chunk (w.step (.ask i (.whereToWrite path))).2 true := by
  obtain ⟨location, answered, chunk, member⟩ := exists_chunk_of_located given
  exact ⟨chunk, path, location, member, Prod.ext answered rfl⟩

/-- A stack of root. -/
def entering : List Operation :=
  [.create 0, .ask 0 (.setSecurity .root)]

/-- Root has written a file. -/
def written : List Operation :=
  entering ++ [.ask 0 (.whereToWrite "/f"), .ask 0 (.doneWriting ⟨[{
    host := "localhost"
    path := "srv/a/f"
    attrs := Table.ofList [(Chunk.poolKey, .str "disk"), (Chunk.nameKey, .str "/f")] }]⟩ 8)]

/-- Ten minutes go by. -/
def waiting : List Operation :=
  [.elsewhere fun host => { host with now := 600 }]

end Workshop

/-- A manager for disk pools and a namespace in memory. -/
def Setting.shelving : List Setting :=
  [.load "memory", .load "filesystem", .option "TokenPassword" "secret",
    .option "MemoryPool" "disk:filesystem", .option "MemoryFilesystem" "disk:localhost:srv/a:1:1000"]

/-- The site of that manager after these steps. -/
def Workshop.shelved (operations : List Operation) : Workshop :=
  (Workshop.run operations { site := ⟨(Setting.run Setting.shelving .initial).2, {}⟩ }).2

open Workshop in
/-- After the ten minutes that tokens last, the one chunk that root was given is still good for a write, and the
other one for a read. -/
theorem issued_chunks_of_root :
    Token.check 600 (Token.issue 0 "root" "srv/a/f" "secret" 600 true) "root" "srv/a/f" "secret" true =
        .valid ∧
      (∃ chunk next, (shelved entering).Issues 0 chunk next true ∧
        ∃ node : LocalFiles, node.checkToken 600 chunk.path true chunk.attrs = .ok ()) ∧
      ∃ chunk next, (shelved written).Issues 0 chunk next false ∧
        ∃ node : LocalFiles, node.checkToken 600 chunk.path false chunk.attrs = .ok () ∧
          node.checkToken 600 chunk.path true chunk.attrs ≠ .ok () := by
  obtain ⟨law, opens, never⟩ := issued_chunks_open
  have reached (operations : List Operation) : (shelved operations).Reachable :=
    ⟨Setting.shelving, {}, operations, rfl⟩
  have passes (operations : List Operation) (chunk : Chunk) (next : Workshop) (granted : Bool)
      (issues : (shelved operations).Issues 0 chunk next granted)
      (start : (shelved operations).site.host.now = 0)
      (issuing : ((shelved operations).security? 0).map (·.user.name) = some "root")
      (opening : ((run waiting next).2.security? 0).map (·.user.name) = some "root")
      (settings : ((run waiting next).2.files? 0).map (·.settings) = some ⟨"secret", .user, 600⟩) :
      ∃ node : LocalFiles, node.checkToken 600 chunk.path granted chunk.attrs = .ok () := by
    obtain ⟨ctx, held, name⟩ := Option.map_eq_some_iff.1 issuing
    obtain ⟨other, under, same⟩ := Option.map_eq_some_iff.1 opening
    obtain ⟨node, there, given⟩ := Option.map_eq_some_iff.1 settings
    have bound : node.settings.identity (some other) = node.settings.identity (some ctx) := by
      rw [given]
      exact congrArg Except.ok (same.trans name.symm)
    have later : (run waiting next).2.site.host.now = 600 := rfl
    have checked := opens _ next 0 0 chunk granted granted ctx other waiting node (reached operations)
      (by rw [start]; decide) held issues under there bound
    rw [later, given, start] at checked
    exact ⟨node, checked.2 ⟨by decide, id⟩⟩
  have writes : located ((shelved entering).step (.ask 0 (.whereToWrite "/f"))).1 = true := by decide +kernel
  have reads : located ((shelved written).step (.ask 0 (.whereToRead "/f"))).1 = true := by decide +kernel
  refine ⟨by rw [law 0 600 600 "root" "srv/a/f" "secret" true true (by decide)]; decide, ?_, ?_⟩
  · obtain ⟨chunk, issues⟩ := issues_of_written writes
    exact ⟨chunk, _, issues, passes _ chunk _ true issues (by decide +kernel) (by decide +kernel)
      (by decide +kernel) (by decide +kernel)⟩
  · obtain ⟨chunk, issues⟩ := issues_of_read reads
    obtain ⟨node, passed⟩ := passes _ chunk _ false issues (by decide +kernel) (by decide +kernel)
      (by decide +kernel) (by decide +kernel)
    exact ⟨chunk, _, issues, node, passed, never _ _ 0 chunk (reached written) issues node 600 _⟩

end Stowage
