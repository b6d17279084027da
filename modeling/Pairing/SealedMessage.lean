import Pairing.Cipher.XChaCha20Poly1305
import Pairing.Entropy
import Pairing.Key

/-!
# Sealed messages

A sealed message is a nonce with the ciphertext under it. Sealing draws the nonce; opening gives back the
plaintext or fails as a whole.
-/

namespace Pairing

structure SealedMessage where
  nonce : Block 24
  ciphertext : Bytes
  deriving DecidableEq

namespace SealedMessage

def toBytes (m : SealedMessage) : Bytes := m.nonce.1 ++ m.ciphertext

def ofBytes (b : Bytes) : Except Error SealedMessage :=
  if h : 24 ≤ b.length then .ok ⟨⟨b.take 24, by simp [h]⟩, b.drop 24⟩ else .error .sealedShort

/-- The length of the plaintext, or zero if there is not even a tag. -/
def plaintextLength (m : SealedMessage) : Nat := m.ciphertext.length - XChaCha20Poly1305.tagLength

end SealedMessage

namespace Key

def sealUnder (k : Key) (nonce : Block 24) (plaintext : Bytes) : SealedMessage :=
  ⟨nonce, XChaCha20Poly1305.encrypt k.bytes nonce plaintext⟩

def sealBytes (k : Key) (plaintext : Bytes) (e : Entropy) :
    Except Error SealedMessage × Entropy :=
  match e.read 24 with
  | (.ok nonce, e) => (.ok (k.sealUnder nonce plaintext), e)
  | (.error err, e) => (.error err, e)

def openBytes (k : Key) (m : SealedMessage) : Except Error Bytes :=
  match XChaCha20Poly1305.decrypt? k.bytes m.nonce m.ciphertext with
  | some p => .ok p
  | none => .error .authentication

end Key

end Pairing
