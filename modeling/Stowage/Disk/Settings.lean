import Stowage.Identity
import Stowage.Token

/-!
The token settings of disk pools: what an operator sets, and what drivers take from it when they
are made.
-/
namespace Stowage

/-- What a token is bound to. -/
inductive TokenBinding where
  /-- The address of the client. -/
  | address
  /-- The name of the user. -/
  | user
  deriving DecidableEq, Repr, Inhabited

def TokenBinding.parse (s : String) : Except Error TokenBinding :=
  let word := Text.lower (Text.trim s)
  if word = "ip" then .ok .address
  else if word = "id" then .ok .user
  else .error (.malformed ("TokenId must be 'ip' or 'id', got '" ++ word ++ "'"))

/-- The settings that a driver works with. -/
structure TokenSettings where
  secret : String
  binding : TokenBinding
  lifetime : Nat
  deriving DecidableEq, Repr, Inhabited

/-- The identity a token is issued to or checked against. -/
def TokenSettings.identity (settings : TokenSettings) (security : Option SecurityContext) :
    Except Error String :=
  match security with
  | none => .error .noSecurityContext
  | some ctx =>
    match settings.binding with
    | .address => .ok ctx.credentials.remoteAddress
    | .user => .ok ctx.user.name

/-- The options of the plugin. The secret has to be set before a driver can be made. -/
structure TokenOptions where
  secret : Option String := none
  binding : TokenBinding := .user
  lifetime : Nat := 600
  deriving DecidableEq, Repr, Inhabited

namespace TokenOptions

def configure (options : TokenOptions) (key value : String) : Except Error TokenOptions :=
  if key = "TokenPassword" then
    if value = "" then .error (.malformed "TokenPassword cannot be empty")
    else .ok { options with secret := some value }
  else if key = "TokenId" then do
    return { options with binding := ← TokenBinding.parse value }
  else if key = "TokenLife" then
    match Text.readU64? (Text.trim value) with
    | some lifetime => .ok { options with lifetime }
    | none => .error (.malformed
        ("TokenLife must be a number of seconds, got '" ++ value ++ "'"))
  else .error (.unknownOption key)

/-- The settings for a new driver. -/
def settings (options : TokenOptions) : Except Error TokenSettings :=
  match options.secret with
  | some secret => .ok ⟨secret, options.binding, options.lifetime⟩
  | none => .error (.malformed "TokenPassword is not set")

end TokenOptions
end Stowage
