import Stowage.Proofs.BannedIdentities
import Stowage.Proofs.NewFiles

/-! Namespaces that catalogs lead to. Any number of catalogs, each with its own identity, working directory
and creation mask, take turns over one namespace. A catalog asks the namespace for one change at most, and
what it asks follows from the session, from the request and from the entry that it has looked up. So every
entry that is there after a request was there before, was restyled by the request, or was made by it. -/
namespace Stowage

/-- A request in the session of the catalog that it is made to. -/
structure Visit where
  session : CatalogSession
  request : CatalogRequest

/-- Path, type and mode of what the request makes. -/
def CatalogRequest.made? : CatalogRequest → Option (String × Mode × Mode)
  | .create path mode => some (path, Mode.regular, mode)
  | .makeDir path mode => some (path, Mode.directory, mode)
  | _ => none

/-- The request makes an entry, or gives one another owner, other bits or another list. -/
def InodeRequest.shapes : InodeRequest → Bool
  | .create _ | .setMode .. => true
  | _ => false

/-- The entry that a template becomes under a number. -/
def Entry.born (template : Entry) (ino : Nat) : Entry :=
  { template with stat := { template.stat with ino, size := 0, nlink := 1 } }

namespace Namespace

variable {ns next : Namespace}

theorem after_of_ok {q : InodeRequest} {answer : q.Answer} (run : handler q ns = .ok answer next) :
    ns.after q = next := by
  rw [Namespace.after, Action.outcome_of_ok run]

/-- A request that shapes no entry leaves each of them what it is, but for its size. -/
theorem kept_of_plain {q : InodeRequest} (plain : q.shapes = false) {ino : Nat} {entry : Entry}
    (there : (ns.after q).entries.get? ino = some entry) :
    ∃ old size, ns.entries.get? ino = some old ∧ entry = { old with stat := { old.stat with size } } := by
  have same : ∀ {old : Entry}, ns.entries.get? ino = some old → ∃ old' size,
      ns.entries.get? ino = some old' ∧ old = { old' with stat := { old'.stat with size } } :=
    fun {old} found => ⟨old, old.stat.size, found, rfl⟩
  cases run : handler q ns with
  | error e after =>
    rw [Namespace.after, Action.outcome_of_error run, handler_failsClean q _ _ _ run] at there
    exact same there
  | ok answer after =>
    rw [after_of_ok run] at there
    cases q with
    | create | setMode => cases plain
    | entry | child | stat | statChild | readDir | replicas | replica =>
      rw [(reads_handler rfl).of_ok run] at there
      exact same there
    | unlink gone =>
      obtain ⟨-, old, -, -, rfl⟩ := unlink_eq_ok_iff.1 (change_eq_ok_iff.1 run)
      rw [Table.get?_erase] at there
      split at there
      · cases there
      · exact same there
    | addReplica record =>
      obtain ⟨-, -, -, rfl⟩ := addReplica_succeeds_iff.1 (change_eq_ok_iff.1 run)
      exact same there
    | deleteReplica record =>
      obtain ⟨-, rfl⟩ := deleteReplica_eq_ok_iff.1 (change_eq_ok_iff.1 run)
      exact same there
    | updateReplica record =>
      obtain ⟨-, rfl⟩ := updateReplica_eq_ok_iff.1 (change_eq_ok_iff.1 run)
      exact same there
    | setSize place size =>
      obtain ⟨old, found, rfl⟩ := setSize_eq_ok (change_eq_ok_iff.1 run)
      rw [get?_store] at there
      by_cases here : ino = place
      · rw [if_pos here] at there
        cases there
        exact ⟨old, size, here ▸ found, rfl⟩
      · rw [if_neg here] at there
        exact same there

end Namespace

namespace BuiltIn

/-- The bits that an identity gives to an entry. The set-group-id bit is not for those outside its group. -/
def bitsFor (ctx : SecurityContext) (entry : Entry) (mode : Mode) : Mode :=
  if ¬ ctx.isRoot ∧ ¬ SecurityContext.hasGroup ctx.groups entry.stat.gid then
    mode.perm &&& ~~~Mode.setGroupId
  else mode.perm

/-- What a catalog asks of the namespace for a request, with what it has looked at before. -/
inductive Asks (session : CatalogSession) (ns : Namespace) : CatalogRequest → InodeRequest → Prop where
  | create {r : CatalogRequest} {path name : String} {type mode : Mode} {ctx : SecurityContext}
      {parent : Entry} {front : List String} (asked : r.made? = some (path, type, mode))
      (known : session.security = some ctx) (whole : front ++ [name] = session.names path)
      (reaches : ns.Reaches ctx front parent) :
      Asks session ns r (.create (template ctx session.umask parent name type mode))
  | setMode {path : String} {mode : Mode} {ctx : SecurityContext} {entry : Entry}
      (known : session.security = some ctx) (reaches : ns.Reaches ctx (session.names path) entry) :
      Asks session ns (.setMode path mode)
        (.setMode entry.stat.ino entry.stat.uid entry.stat.gid (bitsFor ctx entry mode)
          (if entry.acl.isEmpty then ∅ else entry.acl.withMode (bitsFor ctx entry mode)))
  | setOwner {path : String} {uid gid : UInt32} {ctx : SecurityContext} {entry : Entry}
      (known : session.security = some ctx) (reaches : ns.Reaches ctx (session.names path) entry) :
      Asks session ns (.setOwner path uid gid)
        (.setMode entry.stat.ino uid gid entry.stat.mode.perm entry.acl)
  | setAcl {path : String} {acl : Acl} {ctx : SecurityContext} {entry : Entry}
      (known : session.security = some ctx) (reaches : ns.Reaches ctx (session.names path) entry)
      (valid : acl.validate = .ok ())
      (fits : acl.hasDefaults = true → entry.stat.isDirectory = true) :
      Asks session ns (.setAcl path acl)
        (.setMode entry.stat.ino entry.stat.uid entry.stat.gid (acl.modeOf entry.stat.mode.perm) acl)
  | plain {r : CatalogRequest} {q : InodeRequest} (plain : q.shapes = false) : Asks session ns r q

section Requests

variable {b after : Browsing Namespace} {r : CatalogRequest}

/-- What has been asked, the namespace has done. -/
theorem store_of_asked {q : InodeRequest} {answer : q.Answer}
    (done : ask (some Namespace.handler) q b = .ok answer after) : after.store = b.store.after q := by
  obtain ⟨store, run, rfl⟩ := ask_eq_ok_iff.1 done
  exact (Namespace.after_of_ok run).symm

theorem asks_of_createEntry {path : String} {type mode : Mode}
    (asked : r.made? = some (path, type, mode))
    (done : createEntry (some Namespace.handler) path type mode b = .ok () after) :
    ∃ q, Asks b.session b.store r q ∧ after.store = b.store.after q := by
  obtain ⟨ctx, parent, name, created, known, reaches, whole, -, made⟩ :=
    createEntry_eq_ok shows_namespace done
  exact ⟨_, .create asked known whole reaches, store_of_asked made⟩

/-- What a catalog that sets a mode has asked of the namespace. -/
theorem setMode_eq_ok {path : String} {mode : Mode}
    (done : setMode (some Namespace.handler) path mode b = .ok () after) :
    ∃ ctx entry, b.session.security = some ctx ∧ b.store.Reaches ctx (b.session.names path) entry ∧
      ask (some Namespace.handler) (.setMode entry.stat.ino entry.stat.uid entry.stat.gid (bitsFor ctx entry mode)
        (if entry.acl.isEmpty then ∅ else entry.acl.withMode (bitsFor ctx entry mode))) b = .ok () after := by
  obtain ⟨_, _, ⟨⟩, looked⟩ := Action.bind_eq_ok_iff.1 done
  obtain ⟨entry, _, found, checked⟩ := Action.bind_eq_ok_iff.1 looked
  obtain ⟨⟨ctx, known, reaches⟩, rfl⟩ := (lookup_eq_ok_iff shows_namespace).1 found
  obtain ⟨_, _, owned, identified⟩ := Action.bind_eq_ok_iff.1 checked
  obtain ⟨-, rfl⟩ := requireOwner_of_known known owned
  obtain ⟨_, _, identity, sets⟩ := Action.bind_eq_ok_iff.1 identified
  obtain ⟨rfl, rfl⟩ := context_of_known known identity
  exact ⟨_, entry, known, reaches, sets⟩

theorem asks_of_setMode {path : String} {mode : Mode}
    (done : setMode (some Namespace.handler) path mode b = .ok () after) :
    ∃ q, Asks b.session b.store (.setMode path mode) q ∧ after.store = b.store.after q := by
  obtain ⟨ctx, entry, known, reaches, sets⟩ := setMode_eq_ok done
  exact ⟨_, .setMode known reaches, store_of_asked sets⟩

theorem asks_of_setOwner {path : String} {uid gid : UInt32}
    (done : setOwner (some Namespace.handler) path uid gid b = .ok () after) :
    ∃ q, Asks b.session b.store (.setOwner path uid gid) q ∧ after.store = b.store.after q := by
  obtain ⟨_, _, ⟨⟩, looked⟩ := Action.bind_eq_ok_iff.1 done
  obtain ⟨entry, _, found, identified⟩ := Action.bind_eq_ok_iff.1 looked
  obtain ⟨⟨ctx, known, reaches⟩, rfl⟩ := (lookup_eq_ok_iff shows_namespace).1 found
  obtain ⟨_, _, identity, checked⟩ := Action.bind_eq_ok_iff.1 identified
  obtain ⟨rfl, rfl⟩ := context_of_known known identity
  split at checked
  · obtain ⟨-, regroups⟩ := Action.guarded_eq_ok_iff.1 checked
    obtain ⟨-, chooses⟩ := Action.guarded_eq_ok_iff.1 regroups
    obtain ⟨-, sets⟩ := Action.guarded_eq_ok_iff.1 chooses
    exact ⟨_, .setOwner known reaches, store_of_asked sets⟩
  · exact ⟨_, .setOwner known reaches, store_of_asked checked⟩

theorem asks_of_setAcl {path : String} {acl : Acl}
    (done : setAcl (some Namespace.handler) path acl b = .ok () after) :
    ∃ q, Asks b.session b.store (.setAcl path acl) q ∧ after.store = b.store.after q := by
  obtain ⟨_, _, ⟨⟩, looked⟩ := Action.bind_eq_ok_iff.1 done
  obtain ⟨entry, _, found, checked⟩ := Action.bind_eq_ok_iff.1 looked
  obtain ⟨⟨ctx, known, reaches⟩, rfl⟩ := (lookup_eq_ok_iff shows_namespace).1 found
  obtain ⟨_, _, owned, validated⟩ := Action.bind_eq_ok_iff.1 checked
  obtain ⟨-, rfl⟩ := requireOwner_of_known known owned
  obtain ⟨_, _, checks, fitted⟩ := Action.bind_eq_ok_iff.1 validated
  obtain ⟨valid, rfl⟩ := Action.eq_ok_of_ofExcept checks
  obtain ⟨fits, sets⟩ := Action.guarded_eq_ok_iff.1 fitted
  refine ⟨_, .setAcl known reaches valid fun defaults => ?_, store_of_asked sets⟩
  exact Decidable.byContradiction fun file => fits ⟨defaults, file⟩

/-- A look and a change after it come to the change. -/
theorem asks_of_plain {α β : Type} {look : Action (Browsing Namespace) α}
    {next : α → Action (Browsing Namespace) β} {answer : β} (looks : Action.Reads look)
    (changes : ∀ a, next a b = .ok answer after →
      ∃ q, Asks b.session b.store r q ∧ after.store = b.store.after q)
    (done : (look >>= next) b = .ok answer after) :
    ∃ q, Asks b.session b.store r q ∧ after.store = b.store.after q := by
  obtain ⟨a, _, looked, changed⟩ := Action.bind_eq_ok_iff.1 done
  obtain rfl := looks.of_ok looked
  exact changes a changed

theorem asks_of_setSize {path : String} {size : Nat}
    (done : setSize (some Namespace.handler) path size b = .ok () after) :
    ∃ q, Asks b.session b.store r q ∧ after.store = b.store.after q := by
  refine asks_of_plain (Action.reads_query _) (fun path =>
    asks_of_plain (reads_lookup belowReads_namespace _) fun entry typed => ?_) done
  refine asks_of_plain reads_context (fun ctx checked => ?_) (Action.guarded_eq_ok_iff.1 typed).2
  split at checked
  · exact asks_of_plain (reads_require _ _ _)
      (fun _ sets => ⟨_, .plain rfl, store_of_asked sets⟩) checked
  · exact ⟨_, .plain rfl, store_of_asked checked⟩

/-- A request that goes through has left the namespace alone, or has asked it for one change. -/
theorem asks_of_ok {answer : r.Answer} (done : handler (some Namespace.handler) r b = .ok answer after) :
    after.store = b.store ∨ ∃ q, Asks b.session b.store r q ∧ after.store = b.store.after q := by
  cases r with
  | workingDir | entry | stat | access | replicas | readDir =>
    exact .inl (congrArg Browsing.store ((reads_handler belowReads_namespace _ rfl).of_ok done))
  | changeDir path => exact .inl (store_of_changeDir done)
  | umask mask =>
    cases done
    exact .inl rfl
  | setMode path mode => exact .inr (asks_of_setMode done)
  | setOwner path uid gid => exact .inr (asks_of_setOwner done)
  | setAcl path acl => exact .inr (asks_of_setAcl done)
  | setSize path size => exact .inr (asks_of_setSize done)
  | addReplica record | deleteReplica record | updateReplica record =>
    exact .inr (asks_of_plain (reads_requireReplica belowReads_namespace record)
      (fun _ changes => ⟨_, .plain rfl, store_of_asked changes⟩) done)
  | create path mode | makeDir path mode => exact .inr (asks_of_createEntry rfl done)
  | unlink path =>
    refine .inr (asks_of_plain (Action.reads_query _) (fun path =>
      asks_of_plain (reads_removable belowReads_namespace _) fun entry typed => ?_) done)
    exact ⟨_, .plain rfl, store_of_asked (Action.guarded_eq_ok_iff.1 typed).2⟩
  | removeDir path =>
    refine .inr (asks_of_plain (Action.reads_query _) (fun path guarded =>
      asks_of_plain (reads_removable belowReads_namespace _) (fun entry typed => ?_)
        (Action.guarded_eq_ok_iff.1 guarded).2) done)
    exact ⟨_, .plain rfl, store_of_asked (Action.guarded_eq_ok_iff.1 typed).2⟩

theorem left_of_error {e : Error} (failed : handler (some Namespace.handler) r b = .error e after) :
    left r b = b.store := by
  have same := failsClean_handler belowReads_namespace belowFailsClean_namespace r b e after failed
  rw [left, Action.outcome_of_error failed, same]

theorem left_of_ok {answer : r.Answer} (done : handler (some Namespace.handler) r b = .ok answer after) :
    left r b = after.store := by
  rw [left, Action.outcome_of_ok done]

/-- A request, failed or not, leaves the namespace alone or has asked it for one change. -/
theorem left_cases (r : CatalogRequest) (b : Browsing Namespace) :
    left r b = b.store ∨ ∃ q, Asks b.session b.store r q ∧ left r b = b.store.after q := by
  cases run : handler (some Namespace.handler) r b with
  | error e after => exact .inl (left_of_error run)
  | ok answer after =>
    rw [left_of_ok run]
    exact asks_of_ok run

end Requests

/-- What a request has made: an entry in a directory that was there, under a number that was free. -/
structure Makes (b : Browsing Namespace) (path : String) (type mode : Mode) (after : Browsing Namespace)
    (ctx : SecurityContext) (parent created : Entry) : Prop where
  known : b.session.security = some ctx
  above : b.store.at? (b.session.names path).dropLast = some parent
  drawn : ∃ name, created = (template ctx b.session.umask parent name type mode).born b.store.nextIno
  fresh : b.store.entries.get? created.stat.ino = none
  stored : after.store.entries.get? created.stat.ino = some created
  stands : after.store.at? (b.session.names path) = some created

theorem makes_of_ok {b after : Browsing Namespace} {r : CatalogRequest} {answer : r.Answer}
    {path : String} {type mode : Mode} (tree : b.store.Tree) (asked : r.made? = some (path, type, mode))
    (done : handler (some Namespace.handler) r b = .ok answer after) :
    ∃ ctx parent created, Makes b path type mode after ctx parent created := by
  have made : createEntry (some Namespace.handler) path type mode b = .ok () after := by
    cases r with
    | create | makeDir => cases asked; exact done
    | _ => cases asked
  obtain ⟨ctx, parent, name, created, known, reaches, whole, -, stores⟩ :=
    createEntry_eq_ok shows_namespace made
  obtain ⟨store, run, rfl⟩ := ask_eq_ok_iff.1 stores
  have update := Action.update_eq_ok
    (f := (Namespace.create · (template ctx b.session.umask parent name type mode))) run
  obtain ⟨-, drawn, same⟩ := Namespace.create_eq_ok update
  have above := Namespace.at?_of_reaches reaches
  have number : created.stat.ino = b.store.nextIno := by rw [drawn]
  refine ⟨ctx, parent, created, known, above, ⟨name, drawn⟩, ?_, ?_, ?_⟩
  · rw [number]
    refine Option.eq_none_iff_forall_ne_some.2 fun old there => ?_
    exact Nat.lt_irrefl _ (tree.numbered _ _ there)
  · rw [number, same]
    exact (Table.get?_insert _ _ _ _).trans (if_pos rfl)
  · change store.at? (b.session.names path) = some created
    rw [CatalogSession.names, ← whole]
    exact Namespace.at?_of_child (Namespace.at?_of_create tree.numbered update above)
      (Namespace.child_created update)

/-- What has become of an entry that a request of the identity restyles: other bits, which the list
follows; another owner and group; or another list, which the bits follow. -/
inductive Restyled (ctx : SecurityContext) (old : Entry) : CatalogRequest → Entry → Prop where
  | mode (path : String) (mode : Mode) : Restyled ctx old (.setMode path mode)
      { old with
        acl := if old.acl.isEmpty then ∅ else old.acl.withMode (bitsFor ctx old mode)
        stat := { old.stat with
          mode := (old.stat.mode &&& Mode.typeMask) ||| (bitsFor ctx old mode).perm } }
  | owner (path : String) (uid gid : UInt32) : Restyled ctx old (.setOwner path uid gid)
      { old with
        stat := { old.stat with
          uid, gid, mode := (old.stat.mode &&& Mode.typeMask) ||| old.stat.mode.perm.perm } }
  | list (path : String) (acl : Acl) (valid : acl.validate = .ok ())
      (fits : acl.hasDefaults = true → old.stat.isDirectory = true) :
      Restyled ctx old (.setAcl path acl)
        { old with
          acl
          stat := { old.stat with
            mode := (old.stat.mode &&& Mode.typeMask) ||| (acl.modeOf old.stat.mode.perm).perm } }

/-- A restyled entry stays where it is and what it is called. -/
theorem Restyled.kept {ctx : SecurityContext} {old new : Entry} {r : CatalogRequest}
    (style : Restyled ctx old r new) :
    new.parent = old.parent ∧ new.name = old.name ∧ new.stat.isDirectory = old.stat.isDirectory := by
  cases style <;> exact ⟨rfl, rfl, Mode.isDirectory_replaced _ _⟩

/-- Where an entry comes from that is there after a request: it was there before and has at most another
size, it has been restyled, or it has been made in a directory, under the next number. -/
inductive Origin (session : CatalogSession) (ns : Namespace) (r : CatalogRequest) (ino : Nat)
    (entry : Entry) : Prop where
  | kept (old : Entry) (there : ns.entries.get? ino = some old) (size : Nat)
      (same : entry = { old with stat := { old.stat with size } })
  | restyled (ctx : SecurityContext) (known : session.security = some ctx) (old : Entry)
      (there : ns.entries.get? ino = some old) (style : Restyled ctx old r entry)
  | made (path name : String) (type mode : Mode) (asked : r.made? = some (path, type, mode))
      (ctx : SecurityContext) (known : session.security = some ctx) (parent : Entry)
      (front : List String) (whole : front ++ [name] = session.names path)
      (reaches : ns.Reaches ctx front parent) (fresh : ino = ns.nextIno)
      (same : entry = (template ctx session.umask parent name type mode).born ns.nextIno)

section Origins

variable {session : CatalogSession} {ns : Namespace} {r : CatalogRequest} {q : InodeRequest}
  {ino : Nat} {entry : Entry}

theorem Origin.of_there (there : ns.entries.get? ino = some entry) : Origin session ns r ino entry :=
  .kept entry there entry.stat.size rfl

/-- A change of owner, bits and list is one of the entry that was looked up. -/
theorem Origin.of_setMode (tree : ns.Tree) {ctx : SecurityContext} (known : session.security = some ctx)
    {names : List String} {old : Entry} (reaches : ns.Reaches ctx names old) {uid gid : UInt32}
    {mode : Mode} {acl : Acl}
    (style : Restyled ctx old r { old with
      acl, stat := { old.stat with
        uid, gid, mode := (old.stat.mode &&& Mode.typeMask) ||| mode.perm } })
    (there : (ns.after (.setMode old.stat.ino uid gid mode acl)).entries.get? ino = some entry) :
    Origin session ns r ino entry := by
  have stored := tree.reached_stored reaches
  have run : Namespace.handler (.setMode old.stat.ino uid gid mode acl) ns = .ok () (ns.store old.stat.ino
      { old with acl, stat := { old.stat with
          uid, gid, mode := (old.stat.mode &&& Mode.typeMask) ||| mode.perm } }) :=
    Namespace.change_eq_ok_iff.2 (Namespace.setMode_eq_ok_iff.2 ⟨old, stored, rfl⟩)
  rw [Namespace.after_of_ok run, Namespace.get?_store] at there
  by_cases here : ino = old.stat.ino
  · rw [if_pos here] at there
    cases there
    exact .restyled ctx known old (here ▸ stored) style
  · rw [if_neg here] at there
    exact .of_there there

theorem origin_of_asks (tree : ns.Tree) (asks : Asks session ns r q)
    (there : (ns.after q).entries.get? ino = some entry) : Origin session ns r ino entry := by
  cases asks with
  | setMode known reaches => exact .of_setMode tree known reaches (.mode _ _) there
  | setOwner known reaches => exact .of_setMode tree known reaches (.owner _ _ _) there
  | setAcl known reaches valid fits =>
    exact .of_setMode tree known reaches (.list _ _ valid fits) there
  | plain plain =>
    obtain ⟨old, size, found, same⟩ := Namespace.kept_of_plain plain there
    exact .kept old found size same
  | @create _ path name type mode ctx parent front asked known whole reaches =>
    cases run : Namespace.handler (.create (template ctx session.umask parent name type mode)) ns with
    | error e after =>
      rw [Namespace.after, Action.outcome_of_error run,
        Namespace.handler_failsClean _ _ _ _ run] at there
      exact .of_there there
    | ok created after =>
      obtain ⟨-, rfl, rfl⟩ := Namespace.create_eq_ok (Action.update_eq_ok
        (f := (Namespace.create · (template ctx session.umask parent name type mode))) run)
      rw [Namespace.after_of_ok run, Table.get?_insert] at there
      by_cases new : ino = ns.nextIno
      · rw [if_pos new] at there
        cases there
        exact .made path name type mode asked ctx known parent front whole reaches new rfl
      · rw [if_neg new] at there
        exact .of_there there

end Origins
end BuiltIn

namespace Namespace

variable {ns : Namespace}

/-- The namespace after a visit, whether the request succeeds or fails. -/
def visited (ns : Namespace) (v : Visit) : Namespace :=
  BuiltIn.left v.request ⟨v.session, ns⟩

/-- The namespace after some visits, one after another. -/
def visits (ns : Namespace) (turns : List Visit) : Namespace :=
  turns.foldl visited ns

theorem visits_append (ns : Namespace) (earlier later : List Visit) :
    ns.visits (earlier ++ later) = (ns.visits earlier).visits later :=
  List.foldl_append

theorem Tree.visited (tree : ns.Tree) (v : Visit) : (ns.visited v).Tree := by
  unfold Namespace.visited
  rcases BuiltIn.left_cases v.request ⟨v.session, ns⟩ with same | ⟨q, -, made⟩
  · rw [same]
    exact tree
  · rw [made]
    exact tree.after q

theorem tree_of_visits (turns : List Visit) : (initial.visits turns).Tree := by
  induction turns using List.reverseRecOn with
  | nil => exact tree_initial
  | append_singleton earlier v ih =>
    rw [visits_append]
    exact ih.visited v

/-- What is there after a visit comes from what was there before. -/
theorem origin_of_visited (tree : ns.Tree) {v : Visit} {ino : Nat} {entry : Entry}
    (there : (ns.visited v).entries.get? ino = some entry) :
    BuiltIn.Origin v.session ns v.request ino entry := by
  unfold Namespace.visited at there
  rcases BuiltIn.left_cases v.request ⟨v.session, ns⟩ with same | ⟨q, asks, made⟩
  · rw [same] at there
    exact .of_there there
  · rw [made] at there
    exact BuiltIn.origin_of_asks tree asks there

end Namespace
end Stowage
