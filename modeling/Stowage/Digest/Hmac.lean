import Stowage.Digest.Sha256

/-!
The keyed hash HMAC of RFC 2104 over SHA-256.
-/
namespace Stowage.Digest

/-- The key filled up with zeros to one block; a longer key is hashed first. -/
def Hmac.block (key : List UInt8) : List UInt8 :=
  let short := if key.length > 64 then Sha256.hash key else key
  short ++ List.replicate (64 - short.length) 0

/-- The authentication tag of a message: 32 bytes. -/
def hmac (key message : List UInt8) : List UInt8 :=
  let block := Hmac.block key
  let inner := Sha256.hash (block.map (· ^^^ 0x36) ++ message)
  Sha256.hash (block.map (· ^^^ 0x5c) ++ inner)

end Stowage.Digest
