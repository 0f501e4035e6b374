import Stowage.Mode

/-!
Access control lists. A list is kept in order of the raw type and the id of its entries, and
entries with one key stay in the order in which they were given.
-/
namespace Stowage

/-- Whom an entry speaks of. -/
inductive AclTag where
  /-- The owner. -/
  | userObj
  /-- A named user. -/
  | user
  /-- The owning group. -/
  | groupObj
  /-- A named group. -/
  | group
  /-- The upper bound of named users and the group class. -/
  | mask
  /-- Everyone else. -/
  | other
  deriving DecidableEq, Repr, Inhabited

namespace AclTag

def all : List AclTag :=
  [.userObj, .user, .groupObj, .group, .mask, .other]

def raw : AclTag → Nat
  | .userObj => 1
  | .user => 2
  | .groupObj => 3
  | .group => 4
  | .mask => 5
  | .other => 6

end AclTag

/-- One entry. A default entry says nothing on its directory: it is what new entries inherit. -/
structure AclEntry where
  tag : AclTag
  isDefault : Bool := false
  perm : UInt8
  id : UInt32
  deriving DecidableEq, Repr, Inhabited

namespace AclEntry

/-- The type as a number, in which default entries carry an extra bit. -/
def rawType (e : AclEntry) : Nat :=
  if e.isDefault then e.tag.raw + 32 else e.tag.raw

/-- The order of entries: by raw type, then by id. -/
def key (e : AclEntry) : Nat :=
  e.rawType * 0x100000000 + e.id.toNat

/-- Places an entry before those it does not exceed. -/
def place (e : AclEntry) : List AclEntry → List AclEntry
  | [] => [e]
  | d :: rest => if e.key ≤ d.key then e :: d :: rest else d :: place e rest

/-- The entries in order. -/
def sort : List AclEntry → List AclEntry
  | [] => []
  | e :: rest => place e (sort rest)

/-- The list is in order of the keys. -/
def Ordered (entries : List AclEntry) : Prop :=
  entries.Pairwise fun a b => a.key ≤ b.key

theorem mem_place {e x : AclEntry} {entries : List AclEntry} :
    x ∈ place e entries ↔ x = e ∨ x ∈ entries := by
  induction entries with
  | nil => simp [place]
  | cons d rest ih =>
    unfold place
    split
    · simp
    · simp only [List.mem_cons, ih]
      exact or_left_comm

theorem ordered_place {e : AclEntry} {entries : List AclEntry} (ordered : Ordered entries) :
    Ordered (place e entries) := by
  induction entries with
  | nil => simp [place, Ordered]
  | cons d rest ih =>
    have tail := (List.pairwise_cons.1 ordered).2
    have head := (List.pairwise_cons.1 ordered).1
    unfold place
    split
    · rename_i le
      refine List.pairwise_cons.2 ⟨fun x member => ?_, ordered⟩
      rcases List.mem_cons.1 member with rfl | member
      · exact le
      · exact Nat.le_trans le (head x member)
    · rename_i lt
      refine List.pairwise_cons.2 ⟨fun x member => ?_, ih tail⟩
      rcases mem_place.1 member with rfl | member
      · exact Nat.le_of_lt (Nat.lt_of_not_le lt)
      · exact head x member

theorem ordered_sort (entries : List AclEntry) : Ordered (sort entries) := by
  induction entries with
  | nil => exact List.Pairwise.nil
  | cons e rest ih => exact ordered_place ih

end AclEntry

/-- An access control list. The empty one leaves everything to the mode word. -/
structure Acl where
  entries : List AclEntry
  ordered : AclEntry.Ordered entries
  deriving DecidableEq, Repr

namespace Acl

/-- The list of the given entries. -/
def ofEntries (entries : List AclEntry) : Acl :=
  ⟨AclEntry.sort entries, AclEntry.ordered_sort entries⟩

instance : EmptyCollection Acl := ⟨⟨[], List.Pairwise.nil⟩⟩

instance : Inhabited Acl := ⟨∅⟩

def isEmpty (acl : Acl) : Bool :=
  acl.entries.isEmpty

/-- The first entry with the tag that is no default entry. -/
def find? (acl : Acl) (tag : AclTag) : Option AclEntry :=
  acl.entries.find? fun e => e.tag = tag ∧ ¬ e.isDefault

/-- The first default entry with the tag. -/
def findDefault? (acl : Acl) (tag : AclTag) : Option AclEntry :=
  acl.entries.find? fun e => e.tag = tag ∧ e.isDefault

def hasDefaults (acl : Acl) : Bool :=
  acl.entries.any (·.isDefault)

/-- The permission of the first entry with the tag that is no default entry. -/
def permOf? (acl : Acl) (tag : AclTag) : Option Mode :=
  (acl.find? tag).map (·.perm.toUInt32)

end Acl
end Stowage
