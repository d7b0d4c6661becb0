import Provisioning.Crypto.Sha256

/-!
# HMAC over SHA-256

A keyed hash: the key, brought to the length of a block, masks an inner and an
outer hash.
-/

namespace Provisioning.Hmac

/-- The key as one block of sixty-four bytes; a longer one is hashed first. -/
def blockKey (key : Bytes) : Bytes :=
  Bytes.padRight 64 (if 64 < key.length then Sha256.hash key else key)

def sha256 (key message : Bytes) : Bytes :=
  let block := blockKey key
  let inner := Sha256.hash (block.map (· ^^^ 0x36) ++ message)
  Sha256.hash (block.map (· ^^^ 0x5c) ++ inner)

end Provisioning.Hmac
