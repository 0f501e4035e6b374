import Stowage.Contract.Basic
import Stowage.Identity

/-!
The contract of a user and group database.
-/
namespace Stowage

inductive AccountsRequest where
  | user (name : String)
  | group (name : String)
  /-- The groups of a user, the primary one first. -/
  | groupsOf (user : String)
  deriving Repr

namespace AccountsRequest

abbrev Answer : AccountsRequest → Type
  | .user _ => User
  | .group _ => Group
  | .groupsOf _ => List Group

def operation : AccountsRequest → String
  | .user _ => "get_user"
  | .group _ => "get_group"
  | .groupsOf _ => "get_groups_for_user"

end AccountsRequest

abbrev Contract.accounts : Contract :=
  ⟨.accounts, AccountsRequest, AccountsRequest.Answer, AccountsRequest.operation⟩

end Stowage
