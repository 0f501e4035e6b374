import Stowage.Digest.Hmac
import Stowage.Digest.Base64
import Stowage.Text

/-!
Signed access tokens. A token binds a physical file name, an identity, an expiry time and the
access mode:

    base64 (tag of "name GS identity GS expiry GS mode") @ expiry @ mode

Whoever holds the secret can check a token; nothing is kept about issued ones.
-/
namespace Stowage.Token

/-- The identity whose tokens are good for everyone. -/
def genericIdentity : String := "nouser"

/-- The mode field of a token. -/
def modeText (write : Bool) : String :=
  if write then "1" else "0"

/-- The signed text: its fields are apart by the group separator. -/
def payload (id file : String) (expires : Int) (write : Bool) : String :=
  file ++ "\x1d" ++ id ++ "\x1d" ++ Text.ofInt expires ++ "\x1d" ++ modeText write

/-- The tag that the holder of the secret puts on a payload. -/
def signature (secret id file : String) (expires : Int) (write : Bool) : List UInt8 :=
  Digest.hmac secret.toUTF8.toList (payload id file expires write).toUTF8.toList

/-- The last second of 64-bit time. -/
def endOfTime : Int := 0x7FFFFFFFFFFFFFFF

/-- When a token issued at `now` runs out. A lifetime counts for at most the range of 64-bit time,
and no token outlasts that time. -/
def expiry (now : Int) (lifetime : Nat) : Int :=
  min (now + min (lifetime : Int) endOfTime) endOfTime

/-- A token for a file, issued at the time `now`. -/
def issue (now : Int) (id file secret : String) (lifetime : Nat) (write : Bool) : String :=
  let expires := expiry now lifetime
  String.ofList (Digest.Base64.encode (signature secret id file expires write)) ++
    "@" ++ Text.ofInt expires ++ "@" ++ modeText write

/-- What a check of a token can say. -/
inductive Status where
  | valid
  | malformed
  | invalid
  | expired
  | wrongMode
  deriving DecidableEq, Repr, Inhabited

def Status.text : Status → String
  | .valid => "valid"
  | .malformed => "malformed"
  | .invalid => "invalid signature"
  | .expired => "expired"
  | .wrongMode => "not valid for writing"

/-- The fields of a token. -/
structure Fields where
  signature : List UInt8
  expires : Int
  write : Bool
  deriving DecidableEq, Repr

/-- Takes a token apart. The mode is all that follows the second separator. -/
def read? (token : String) : Option Fields := do
  let (encoded, rest) ← Text.cut '@' token
  let (expires, mode) ← Text.cut '@' rest
  let expires ← Text.readI64? expires
  let write ← if mode = "0" then some false else if mode = "1" then some true else none
  let signature ← Digest.Base64.decode? encoded.toList
  return { signature, expires, write }

/-- Checks at the time `now` a token that `id` presents for a file. A bad signature is told before
a token that has run out, and that before one of the wrong mode. -/
def check (now : Int) (token id file secret : String) (write : Bool) : Status :=
  match read? token with
  | none => .malformed
  | some fields =>
    let signedFor (candidate : String) :=
      signature secret candidate file fields.expires fields.write == fields.signature
    if ¬ (signedFor id ∨ signedFor genericIdentity) then .invalid
    else if fields.expires < now then .expired
    else if write ∧ ¬ fields.write then .wrongMode
    else .valid

end Stowage.Token
