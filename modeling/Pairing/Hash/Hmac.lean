import Pairing.Hash.Sha2

/-!
# Keyed hashing and key derivation

HMAC over SHA-256, and the extract-and-expand derivation that is built on it.
-/

namespace Pairing

namespace Hmac

/-- A key in the room of one block: long keys are hashed first, short ones filled up with zeros. -/
def blockKey (key : Bytes) : Bytes :=
  let k := if key.length ≤ 64 then key else (sha256 key).1
  k ++ List.replicate (64 - k.length) 0

def tag (key message : Bytes) : Block 32 :=
  let k := blockKey key
  sha256 (k.map (· ^^^ 0x5c) ++ (sha256 (k.map (· ^^^ 0x36) ++ message)).1)

end Hmac

namespace Hkdf

/-- Secret material of any form concentrated into one key. -/
def extract (salt material : Bytes) : Block 32 := Hmac.tag salt material

/-- The first block of output, which is all that a key of 32 bytes takes. -/
def expand (key : Block 32) (info : Bytes) : Block 32 := Hmac.tag key.1 (info ++ [1])

/-- Derivation without salt stands for a salt of zeros of the length of a digest. -/
def derive (material info : Bytes) : Block 32 :=
  expand (extract (List.replicate 32 0) material) info

end Hkdf

end Pairing
