import Stowage.Proofs.Operations

/-! What an operation can do to a site, as a sequence of effects. An operation of the resolution is
described by the kinds of its effects, whatever the chains of its stack are made of and however it
ends. From the kinds alone it follows what a sequence leaves alone: files, factories for drivers, and
all replica rows but those that are registered. -/
namespace Stowage

/-- One thing that is done to a site. -/
inductive Effect where
  /-- A request to the namespace of a memory factory. -/
  | names (id : FactoryId) (r : InodeRequest)
  /-- A request to the pools of a memory factory. -/
  | pools (id : FactoryId) (r : PoolsRequest)
  /-- Files come and go, and time passes. -/
  | machine (host : Host)
  /-- The placement policy takes turns. -/
  | turns (turn : UInt64)

/-- The site after the effect. -/
def Effect.after (site : Site) : Effect → Site
  | .names id r => site.putNamespace id ((site.namespace_ id).after r)
  | .pools id r => site.putPools id ((PoolTable.handler r).outcome (site.manager.memory id).pools).2
  | .machine host => { site with host }
  | .turns turn => { site with manager :=
      { site.manager with placement := { site.manager.placement with turn } } }

/-- Effects of these kinds, one after another, lead from one site to another. -/
inductive Leads (P : Effect → Prop) : Site → Site → Prop where
  | refl (a : Site) : Leads P a a
  | tail {a b : Site} {e : Effect} (led : Leads P a b) (kind : P e) : Leads P a (e.after b)

namespace Leads

variable {P Q : Effect → Prop} {a b c : Site}

theorem trans (first : Leads P a b) (second : Leads P b c) : Leads P a c := by
  induction second with
  | refl => exact first
  | tail _ kind ih => exact ih.tail kind

theorem single (a : Site) {e : Effect} (kind : P e) : Leads P a (e.after a) :=
  (Leads.refl a).tail kind

instance (P : Effect → Prop) : Action.Frame (Leads P) where
  refl := Leads.refl
  trans := Leads.trans

/-- Without effects on the machine, files and clock are as they were. -/
theorem host_eq (led : Leads P a b) (still : ∀ host, ¬ P (.machine host)) : b.host = a.host := by
  induction led with
  | refl => rfl
  | @tail b e led kind ih =>
    cases e with
    | machine host => exact absurd kind (still host)
    | names | pools | turns => exact ih

/-- Without effects on pools, the pools of all memory factories are as they were. -/
theorem pools_eq (led : Leads P a b) (still : ∀ id r, ¬ P (.pools id r)) (id : FactoryId) :
    (b.manager.memory id).pools = (a.manager.memory id).pools := by
  induction led with
  | refl => rfl
  | @tail b e led kind ih =>
    cases e with
    | pools n r => exact absurd kind (still n r)
    | names => exact (Site.pools_putNamespace b).trans ih
    | machine | turns => exact ih

/-- Whatever the effects are, factories for disk pools stay the only ones for drivers. -/
theorem drivers (led : Leads P a b)
    (makes : ∀ pair ∈ a.manager.registered .driver, ∃ options, pair.2 = .disk options) :
    ∀ pair ∈ b.manager.registered .driver, ∃ options, pair.2 = .disk options := by
  induction led with
  | refl => exact makes
  | @tail b e led kind ih =>
    cases e with
    | names | pools => exact Manager.disks_setMemory ih
    | machine | turns => exact ih

end Leads

namespace Namespace

variable {ns : Namespace} {row : Replica}

/-- A row that stands in the table after a request stood there before, or the request brought it. -/
theorem rows_after (r : InodeRequest) (member : row ∈ (ns.after r).replicas.values) :
    row ∈ ns.replicas.values ∨ r = .updateReplica row ∨
      ∃ record, r = .addReplica record ∧ row = { record with id := row.id } := by
  have put : ∀ record : Replica, row ∈ (ns.replicas.insert record.id record).values →
      row = record ∨ row ∈ ns.replicas.values := by
    intro record inserted
    obtain ⟨pair, listed, rfl⟩ := List.mem_map.1 inserted
    rcases Table.mem_put listed with rfl | old
    · exact .inl rfl
    · exact .inr (List.mem_map_of_mem old)
  cases rowsStep_after ns r with
  | fewer rows => exact .inl ((rows.map Prod.snd).subset member)
  | updated record _ asked _ rows =>
    rw [rows] at member
    rcases put record member with rfl | old
    · exact .inr (.inl asked)
    · exact .inl old
  | added record asked _ _ rows =>
    rw [rows] at member
    rcases put { record with id := ns.idFor record } member with rfl | old
    · exact .inr (.inr ⟨record, asked, rfl⟩)
    · exact .inl old

end Namespace

/-- A namespace changes by the requests that are made to it. -/
theorem Effect.namespace_after (e : Effect) (b : Site) (id : FactoryId) :
    (e.after b).namespace_ id = b.namespace_ id ∨
      ∃ r, e = .names id r ∧ (e.after b).namespace_ id = (b.namespace_ id).after r := by
  cases e with
  | machine | turns => exact .inl rfl
  | pools n r => exact .inl (Site.namespace_putPools b)
  | names n r =>
    by_cases here : id = n
    · subst here
      rcases Site.namespace_putNamespace id ((b.namespace_ id).after r) b with stored | ⟨none_, still⟩
      · exact .inr ⟨r, rfl, stored⟩
      · exact .inl (still.trans none_.symm)
    · exact .inl (Site.namespace_putNamespace_of_ne here)

/-- The row stands in the replica table of a memory factory. -/
def Site.Registers (site : Site) (id : FactoryId) (row : Replica) : Prop :=
  row ∈ (site.namespace_ id).replicas.values

namespace Leads

variable {P : Effect → Prop} {a b : Site} {id : FactoryId} {row : Replica}

/-- What every request to a namespace keeps, every sequence of effects keeps. -/
theorem namespace_ {holds : Namespace → Prop} (step : ∀ ns r, holds ns → holds (ns.after r))
    (led : Leads P a b) (before : holds (a.namespace_ id)) : holds (b.namespace_ id) := by
  induction led with
  | refl => exact before
  | @tail b e led kind ih =>
    rcases e.namespace_after b id with same | ⟨r, -, stored⟩
    · rw [same]
      exact ih
    · rw [stored]
      exact step _ r ih

/-- Without updates, a row that is registered was registered before, or it was added. -/
theorem registers (led : Leads P a b) (still : ∀ id record, ¬ P (.names id (.updateReplica record)))
    (there : b.Registers id row) :
    a.Registers id row ∨
      ∃ record, P (.names id (.addReplica record)) ∧ row = { record with id := row.id } := by
  induction led with
  | refl => exact .inl there
  | @tail b e led kind ih =>
    unfold Site.Registers at there ih
    rcases e.namespace_after b id with same | ⟨r, rfl, stored⟩
    · rw [same] at there
      exact ih there
    · rw [stored] at there
      rcases Namespace.rows_after r there with old | rfl | ⟨record, rfl, same⟩
      · exact ih old
      · exact absurd kind (still id row)
      · exact .inr ⟨record, kind, same⟩

end Leads

instance Action.instFrameInvImage {σ τ : Type} {R : σ → σ → Prop} [Action.Frame R] (f : τ → σ) :
    Action.Frame (InvImage R f) where
  refl s := Action.Frame.refl (f s)
  trans first second := Action.Frame.trans (R := R) first second

namespace BuiltIn

variable {P : Effect → Prop}

/-- A request that decorators pass on is one effect on the namespace, if there is one. -/
theorem leads_ask (below : Option TableChain) {r : InodeRequest}
    (passed : ∀ h : Contract.inode.Handler Site, Contract.inode.forward h r = h r)
    (kind : ∀ id, P (.names id r)) :
    Action.Keeps (InvImage (Leads P) Browsing.store) (ask (below.map Site.inodeHandler) r) := by
  cases below with
  | none => exact (Action.reads_throw _).keeps
  | some chain =>
    obtain ⟨inner, base⟩ := chain
    intro b
    cases base with
    | plain node =>
      have bare : ask (some (Site.inodeHandler ⟨inner, .plain node⟩)) r b =
          .error (Contract.inode.unanswered r) b := by
        unfold ask Action.zoom
        dsimp only
        rw [Site.inodeHandler_plain passed]
        rfl
      change InvImage _ _ _ ((ask (some _) r).outcome b).2
      rw [Action.outcome_of_error bare]
      exact Action.Frame.refl b
    | memory id =>
      have after : (((ask (some (Site.inodeHandler ⟨inner, .memory id⟩)) r).outcome b).2).store =
          (Effect.names id r).after b.store := by
        unfold ask
        dsimp only
        rw [Site.inodeHandler_memory passed, Action.outcome_zoom, Action.outcome_zoom]
        rfl
      change Leads P b.store (((ask (some _) r).outcome b).2).store
      rw [after]
      exact Leads.single _ (kind id)

section Requests

variable (below : Option TableChain) (path : String)

theorem leads_create (type mode : Mode) (kind : ∀ id template, P (.names id (.create template))) :
    Action.Keeps (InvImage (Leads P) Browsing.store)
      (createEntry (below.map Site.inodeHandler) path type mode) :=
  keeps_createEntry (Site.belowReads below) path type mode fun template =>
    leads_ask below (fun _ => rfl) fun id => kind id template

theorem leads_unlink (kind : ∀ id ino, P (.names id (.unlink ino))) :
    Action.Keeps (InvImage (Leads P) Browsing.store) (unlink (below.map Site.inodeHandler) path) :=
  keeps_unlink (Site.belowReads below) path fun ino =>
    leads_ask below (fun _ => rfl) fun id => kind id ino

theorem leads_setSize (size : Nat) (kind : ∀ id ino, P (.names id (.setSize ino size))) :
    Action.Keeps (InvImage (Leads P) Browsing.store)
      (setSize (below.map Site.inodeHandler) path size) :=
  keeps_setSize (Site.belowReads below) path size fun ino =>
    leads_ask below (fun _ => rfl) fun id => kind id ino

theorem leads_addReplica (record : Replica) (kind : ∀ id, P (.names id (.addReplica record))) :
    Action.Keeps (InvImage (Leads P) Browsing.store)
      (handler (below.map Site.inodeHandler) (.addReplica record)) :=
  keeps_addReplica (Site.belowReads below) record (leads_ask below (fun _ => rfl) kind)

end Requests

end BuiltIn

namespace OnSite

/-- Effects of these kinds lead from the site of the one to that of the other, and drivers for disk
pools stay the only ones. -/
structure Does (P : Effect → Prop) (s t : OnSite) : Prop where
  site : Leads P s.site t.site
  disks : s.DiskOnly → t.DiskOnly

variable {P : Effect → Prop} {s t : OnSite}

instance (P : Effect → Prop) : Action.Frame (Does P) where
  refl s := ⟨.refl s.site, id⟩
  trans first second := ⟨first.site.trans second.site, second.disks ∘ first.disks⟩

/-- Where no driver is made, all that counts are the effects. -/
theorem Does.of_leads (led : Leads P s.site t.site) (drivers : t.stack.drivers = s.stack.drivers) :
    Does P s t :=
  ⟨led, fun disks => ⟨drivers ▸ disks.made, led.drivers disks.makes⟩⟩

end OnSite

namespace StackM

open OnSite

variable {P : Effect → Prop}

theorem does_driver (type : String) : Action.Keeps (Does P) (driver type) := by
  intro s
  have prepares := keeps_driver type s
  have site : ((driver type).outcome s).2.site = s.site := sameSite_driver type s
  refine ⟨?_, fun disks => (prepares.disks disks).1⟩
  rw [site]
  exact .refl s.site

theorem does_askDriver (kind : ∀ host, P (.machine host)) (node : DriverNode) (r : DriverRequest) :
    Action.Keeps (Does P) (askDriver node r) := by
  intro s
  rw [state_askDriver]
  exact .of_leads (Leads.single s.site (kind ((node.handler r).outcome s.site.host).2)) rfl

theorem does_io (kind : ∀ host, P (.machine host)) (r : IoRequest) :
    Action.Keeps (Does P) (io r) := by
  have chains : Action.Keeps (Does P) (need .io Stack.io) := (Action.reads_query _).keeps
  apply chains.bind
  intro chain s
  have after : ((onSite (Site.ioHandler chain r)).outcome s).2 = { s with site :=
      (Effect.machine ((chain.base.handler r).outcome s.site.host).2).after s.site } := by
    unfold onSite
    rw [Action.outcome_zoom]
    dsimp only
    rw [state_ioHandler, Site.onHost, Contract.Handler.zoom, Action.outcome_zoom]
    rfl
  rw [after]
  exact .of_leads (Leads.single _ (kind _)) rfl

/-- What a catalog does to the site, its innermost node does. -/
theorem does_catalog {r : CatalogRequest} (passed : r.passed = true)
    (leads : ∀ below, Action.Keeps (InvImage (Leads P) Browsing.store)
      (BuiltIn.handler (Option.map Site.inodeHandler below) r)) :
    Action.Keeps (Does P) (catalog r) := by
  apply keeps_catalog_of_wired
  rintro s ⟨outer, node⟩ -
  have kept : Leads P s.site
      ((Site.catalogHandler s.stack.excluded ⟨outer, node⟩ r).outcome ⟨node.session, s.site⟩).2.store := by
    rw [Site.catalogHandler_passed passed]
    cases node with
    | plain node => exact .refl s.site
    | builtIn below session => exact leads below ⟨session, s.site⟩
  exact .of_leads kept rfl

theorem does_update (kind : ∀ id pool, P (.pools id (.update pool))) (pool : Pool) :
    Action.Keeps (Does P) (pools (.update pool)) := by
  have chains : Action.Keeps (Does P) (need .pools Stack.pools) := (Action.reads_query _).keeps
  apply chains.bind
  intro chain
  rw [poolsHandler_eq]
  obtain ⟨decorators, base⟩ := chain
  cases base with
  | plain node =>
    have bare : Action.Reads (onSite (Site.poolsHandler ⟨[], .plain node⟩ (.update pool))) :=
      Action.Reads.zoom (Action.reads_throw _) fun _ => rfl
    exact bare.keeps
  | memory id =>
    intro s
    have after : ((onSite (Site.poolsHandler ⟨[], .memory id⟩ (.update pool))).outcome s).2 =
        { s with site := (Effect.pools id (.update pool)).after s.site } := by
      have zoomed : Site.poolsHandler ⟨[], .memory id⟩ (.update pool) =
          Action.zoom (fun site => (site.manager.memory id).pools) (Site.putPools id)
            (PoolTable.handler (.update pool)) := rfl
      unfold onSite
      rw [zoomed, Action.outcome_zoom, Action.outcome_zoom]
      rfl
    rw [after]
    exact .of_leads (Leads.single _ (kind id pool)) rfl

end StackM

namespace Effect

/-- Finding a location to read from takes turns. -/
def Reading : Effect → Prop
  | .turns _ => True
  | _ => False

/-- Finding a location to write to may make an entry, or else give the location back. -/
def Writing : Effect → Prop
  | .turns _ | .machine _ | .names _ (.create _) => True
  | _ => False

/-- A write that is done is registered and accounted for. -/
def Reporting (location : Location) : Effect → Prop
  | .names _ (.addReplica record) => ∃ chunk pool entry, location.first = .ok chunk ∧
      record = Resolution.writtenReplica chunk pool entry
  | .names _ (.setSize ..) | .pools _ (.update _) => True
  | _ => False

/-- A file that is opened may be made or emptied. -/
def Accessing : Effect → Prop
  | .machine _ => True
  | _ => False

/-- A write that is given up loses its file, and perhaps its entry. -/
def Cancelling : Effect → Prop
  | .machine _ | .names _ (.unlink _) => True
  | _ => False

end Effect

namespace Resolution

open OnSite StackM

theorem does_select {P : Effect → Prop} (kind : ∀ turn, P (.turns turn)) (free : List Nat) :
    Action.Keeps (Does P) (select free) :=
  keeps_select_of_turned (fun s turn => .of_leads (Leads.single s.site (kind turn)) rfl) free

theorem does_whereToRead (path : String) : Action.Keeps (Does Effect.Reading) (whereToRead path) :=
  keeps_whereToRead does_driver (does_select fun _ => trivial) path

theorem does_whereToWrite (path : String) :
    Action.Keeps (Does Effect.Writing) (whereToWrite path) :=
  keeps_whereToWrite does_driver (does_select fun _ => trivial)
    (does_askDriver fun _ => trivial)
    (fun path => does_catalog rfl fun below => BuiltIn.leads_create below path _ _ fun _ _ => trivial)
    path

theorem does_doneWriting (location : Location) (size : Nat) :
    Action.Keeps (Does (Effect.Reporting location)) (doneWriting location size) := by
  refine keeps_doneWriting does_driver ?_ ?_ (does_update fun _ _ => trivial)
  · intro chunk pool entry first
    exact does_catalog rfl fun below => BuiltIn.leads_addReplica below _ fun _ =>
      ⟨chunk, pool, entry, first, rfl⟩
  · intro name
    exact does_catalog rfl fun below => BuiltIn.leads_setSize below name size fun _ _ => trivial

theorem does_dropEntry (name : String) {P : Effect → Prop}
    (kind : ∀ id ino, P (.names id (.unlink ino))) : Action.Keeps (Does P) (dropEntry name) :=
  keeps_dropEntry (does_catalog rfl fun below => BuiltIn.leads_unlink below name kind)

theorem does_cancelWrite (location : Location) :
    Action.Keeps (Does Effect.Cancelling) (cancelWrite location) :=
  keeps_cancelWrite does_driver (does_askDriver fun _ => trivial)
    (fun name => does_catalog rfl fun below => BuiltIn.leads_unlink below name fun _ _ => trivial)
    location

end Resolution
end Stowage
