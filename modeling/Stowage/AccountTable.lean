import Stowage.Contract.Accounts

/-!
User and group accounts in memory, and how an operator writes them.
-/
namespace Stowage

/-- A user and the names of its groups, the primary one first. -/
structure Account where
  user : User
  groups : List String
  deriving Repr, Inhabited

structure AccountTable where
  users : Table String Account := ∅
  groups : Table String Group := ∅
  deriving Repr, Inhabited

namespace AccountTable

def addUser (t : AccountTable) (account : Account) : AccountTable :=
  { t with users := t.users.insert account.user.name account }

def addGroup (t : AccountTable) (group : Group) : AccountTable :=
  { t with groups := t.groups.insert group.name group }

def account (t : AccountTable) (name : String) : Except Error Account :=
  match t.users.get? name with
  | some account => .ok account
  | none => .error (.noSuchUser name)

def user (t : AccountTable) (name : String) : Except Error User := do
  return (← t.account name).user

def group (t : AccountTable) (name : String) : Except Error Group :=
  match t.groups.get? name with
  | some group => .ok group
  | none => .error (.noSuchGroup name)

def groupsOf (t : AccountTable) (name : String) : Except Error (List Group) := do
  (← t.account name).groups.mapM t.group

/-- The accounts as an implementation of their contract. -/
def handler : Contract.accounts.Handler AccountTable
  | .user name => Action.query (·.user name)
  | .group name => Action.query (·.group name)
  | .groupsOf name => Action.query (·.groupsOf name)

end AccountTable

/-- Reads `name:uid[:group,...]`. -/
def Account.parse (value : String) : Except Error Account :=
  let fault : Error :=
    .malformed ("expected name:uid[:group,...], got '" ++ value ++ "'")
  match Text.cut ':' value with
  | none => .error fault
  | some (name, rest) =>
    let (uid, groups) := (Text.cut ':' rest).getD (rest, "")
    match Text.readU32? (Text.trim uid), Text.trim name with
    | none, _ => .error fault
    | some uid, name =>
      if name = "" then .error fault
      else .ok {
        user := { name, uid }
        groups := ((Text.parts ',' groups).map Text.trim).filter (· ≠ "") }

/-- Reads `name:gid`. -/
def Group.parse (value : String) : Except Error Group :=
  let shape : Error := .malformed ("expected name:gid, got '" ++ value ++ "'")
  match Text.cut ':' value with
  | none => .error shape
  | some (name, gid) =>
    let name := Text.trim name
    if name = "" then .error shape
    else
      match Text.readU32? (Text.trim gid) with
      | some gid => .ok { name, gid }
      | none => .error (.malformed ("invalid gid in '" ++ value ++ "'"))

end Stowage
