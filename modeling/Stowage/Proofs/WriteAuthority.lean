import Stowage.Proofs.Placing
import Stowage.Proofs.ReplicaRights

/-! Who is given a location to write to. A file that is there already is looked up and nothing more: the
way to it has to be open, but its own permissions are not asked. A file that is not there yet is made,
and for that the catalog wants write and search permission on the directory. A location is therefore
given to an identity that may write the file, exactly if the file is new or permits writing. -/
namespace Stowage.WriteAuthority
open Resolution

/-- The identity may write the file at a path: the file that is there, or else a new one. -/
def MayWriteAt (ns : Namespace) (ctx : SecurityContext) (names : List String) : Prop :=
  match ns.at? names with
  | some entry => entry.permits ctx Mode.write = true
  | none => ∃ parent, ns.at? names.dropLast = some parent ∧
      parent.permits ctx (Mode.write ||| Mode.search) = true

variable {s t : OnSite} {path : String}

/-- What a stack that gives a location to write to has done before: it looked the file up, and made
it if it was missing, both on what it saw at the beginning. -/
theorem steps_of_located {location : Location} (located : whereToWrite path s = .ok location t) :
    ∃ target, absolute path s = .ok target s ∧ ∃ u, s.Drifts u ∧
      ((∃ entry, StackM.catalog (.entry target) u = .ok entry u ∧ entry.stat.isDirectory = false) ∨
        ∃ e, StackM.catalog (.entry target) u = .error e u ∧ e.kind = .fileNotFound ∧
          ∃ v, s.Drifts v ∧ StackM.catalog (.create target newFileMode) v = .ok () t) := by
  obtain ⟨target, _, u, _, _, _, v, seen, -, prepared, asked, -, -, further, made, -⟩ :=
    whereToWrite_eq_ok located
  refine ⟨target, seen, u, prepared.toDrifts, ?_⟩
  obtain ⟨-, found⟩ := entryExists_eq_ok asked
  rcases found with ⟨-, entry, looked, file⟩ | ⟨rfl, e, missed, kind⟩
  · exact .inl ⟨entry, looked, file⟩
  · rcases made with ⟨there, -⟩ | ⟨-, created⟩
    · cases there
    · exact .inr ⟨e, missed, kind, v, further.toDrifts, create_of_createFor created⟩

/-- Whoever is given a location to write to may write the file, exactly if the file is new or permits
it; of a file that is there, only the way to it was checked. -/
theorem mayWriteAt_iff_of_located {location : Location}
    (located : whereToWrite path s = .ok location t) :
    ∃ session ns ctx, s.Browses session ns ∧ session.security = some ctx ∧
      (∀ entry, ns.at? (session.names path) = some entry →
        ns.Reaches ctx (session.names path) entry ∧ entry.stat.isDirectory = false) ∧
      (MayWriteAt ns ctx (session.names path) ↔
        ∀ entry, ns.at? (session.names path) = some entry →
          entry.permits ctx Mode.write = true) := by
  obtain ⟨target, seen, u, drifted, outcome⟩ := steps_of_located located
  have asked : (∃ entry, StackM.catalog (.entry target) u = .ok entry u) ∨
      ∃ e, StackM.catalog (.entry target) u = .error e u ∧ e.kind = .fileNotFound := by
    rcases outcome with ⟨entry, found, -⟩ | ⟨e, missed, kind, -⟩
    · exact .inl ⟨entry, found⟩
    · exact .inr ⟨e, missed, kind⟩
  obtain ⟨outer, session, ns, views⟩ := OnSite.browses_of_entry asked
  have browses := drifted.browsesThrough.1 views
  rw [OnSite.absolute_apply browses] at seen
  cases seen
  rcases outcome with ⟨entry, found, file⟩ | ⟨e, missed, kind, v, further, created⟩
  · obtain ⟨ctx, known, reaches⟩ := OnSite.reaches_of_entry views found
    rw [CatalogSession.names_absolute] at reaches
    have there := Namespace.at?_of_reaches reaches
    refine ⟨session, ns, ctx, ⟨outer, browses⟩, known, ?_, ?_⟩
    · intro other same
      obtain rfl := Option.some.inj (there.symm.trans same)
      exact ⟨reaches, file⟩
    · unfold MayWriteAt
      simp [there]
  · have absent := OnSite.at?_of_missed views missed kind
    obtain ⟨ctx, parent, known, reaches, permits⟩ :=
      OnSite.mayCreate_of_create (further.browsesThrough.2 browses) created
    rw [CatalogSession.names_absolute] at absent reaches
    refine ⟨session, ns, ctx, ⟨outer, browses⟩, known, ?_, ?_⟩
    · intro other same
      rw [absent] at same
      cases same
    · have may : MayWriteAt ns ctx (session.names path) := by
        unfold MayWriteAt
        rw [absent]
        exact ⟨parent, Namespace.at?_of_reaches reaches, permits⟩
      simp [may, absent]

/-- A stack of alice's on a site with a file of root's, which everyone may read, and a pool. -/
def visit : OnSite :=
  OnSite.desk ReplicaRights.alice ReplicaRights.neighbours
    (Table.ofList [("disk", OnSite.diskPool "disk" "srv/a" 1000)]) .initial

/-- A location to write a file to, token included, is given to an identity that may only read it. -/
theorem located_without_permission :
    ∃ location t, whereToWrite "/f" visit = .ok location t ∧
      location.chunks.any (fun chunk => chunk.token?.isSome) = true ∧
      ¬ MayWriteAt ReplicaRights.neighbours ReplicaRights.alice ["f"] := by
  have given : (match whereToWrite "/f" visit with
      | .ok location _ => location.chunks.any fun chunk => chunk.token?.isSome
      | .error .. => false) = true := by
    decide +kernel
  cases located : whereToWrite "/f" visit with
  | error e t =>
    rw [located] at given
    cases given
  | ok location t =>
    rw [located] at given
    obtain ⟨session, ns, ctx, ⟨outer, browses⟩, known, -, may⟩ := mayWriteAt_iff_of_located located
    obtain ⟨rfl, rfl⟩ := (OnSite.browses_desk _ _ _ _).unique browses
    cases known
    have names : CatalogSession.names { security := some ReplicaRights.alice } "/f" = ["f"] := by
      decide +kernel
    rw [names] at may
    refine ⟨location, t, rfl, given, ?_⟩
    rw [may]
    intro permitted
    have forbidden : (ReplicaRights.neighbours.at? ["f"]).any
        (fun entry => !entry.permits ReplicaRights.alice Mode.write) = true := by
      decide +kernel
    obtain ⟨entry, there, refused⟩ := Option.any_eq_true _ _ |>.1 forbidden
    rw [permitted entry there] at refused
    cases refused

end Stowage.WriteAuthority
