import Pairing.Error
import Pairing.Hash.Hmac

/-!
# Secrets and keys

A handshake ends in a secret, and the key of the channel is derived from the secret.
-/

namespace Pairing

def Secret.length : Nat := 32

structure Secret where
  bytes : Block Secret.length
  deriving DecidableEq

def Key.length : Nat := 32

structure Key where
  bytes : Block Key.length
  deriving DecidableEq

def Secret.deriveKey (s : Secret) : Key := ⟨Hkdf.derive s.bytes.1 []⟩

/-- Only byte strings of 32 bytes are keys. -/
def Key.ofBytes (b : Bytes) : Except Error Key :=
  if h : b.length = Key.length then .ok ⟨⟨b, h⟩⟩ else .error .keyLength

end Pairing
