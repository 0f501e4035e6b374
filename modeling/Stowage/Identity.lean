import Stowage.Attributes

/-!
Who a request runs as: the credentials that a client presents, and the user and groups they are
resolved to.
-/
namespace Stowage

/-- Identity material presented by a client. -/
structure Credentials where
  mechanism : String := ""
  clientName : String := ""
  remoteAddress : String := ""
  sessionId : String := ""
  /-- Group tags. Where there are none, the user's own groups count. -/
  fqans : List String := []
  deriving Repr, DecidableEq, Inhabited

/-- A flag among attributes that are free to hold anything: not set, if it cannot be read. -/
def Attributes.holds (attrs : Attributes) (key : String) : Bool :=
  match attrs.flag key false with
  | .ok value => value
  | .error _ => false

structure User where
  name : String
  uid : UInt32
  attrs : Attributes := ∅
  deriving Repr, Inhabited

def User.isBanned (user : User) : Bool :=
  user.attrs.holds "banned"

structure Group where
  name : String
  gid : UInt32
  attrs : Attributes := ∅
  deriving Repr, Inhabited

def Group.isBanned (group : Group) : Bool :=
  group.attrs.holds "banned"

/-- The identity a request runs as. -/
structure SecurityContext where
  user : User
  /-- The primary group first. -/
  groups : List Group
  credentials : Credentials
  deriving Repr, Inhabited

namespace SecurityContext

/-- The user id of the identity without privileges. -/
def nobodyUid : UInt32 := 0xFFFFFFFF

/-- An identity without privileges and groups. -/
def nobody : SecurityContext :=
  ⟨⟨"nobody", nobodyUid, ∅⟩, [], {}⟩

/-- The superuser. -/
def root : SecurityContext :=
  ⟨⟨"root", 0, ∅⟩, [⟨"root", 0, ∅⟩], { mechanism := "local", clientName := "root" }⟩

def isRoot (ctx : SecurityContext) : Bool :=
  ctx.user.uid == 0

def uid (ctx : SecurityContext) : UInt32 :=
  ctx.user.uid

/-- The primary group, group 0 for a user without groups. -/
def gid (ctx : SecurityContext) : UInt32 :=
  match ctx.groups with
  | [] => 0
  | primary :: _ => primary.gid

def gids (ctx : SecurityContext) : List UInt32 :=
  ctx.groups.map (·.gid)

/-- A banned user is locked out, and so is one whose primary group is banned. -/
def isBanned (ctx : SecurityContext) : Bool :=
  ctx.user.isBanned || (ctx.groups.head?.map Group.isBanned).getD false

/-- Whether a group that is not banned has this id. -/
def hasGroup (groups : List Group) (gid : UInt32) : Bool :=
  groups.any fun g => g.gid == gid && !g.isBanned

end SecurityContext
end Stowage
