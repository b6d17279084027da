import Pairing.Cipher.ChaCha20
import Pairing.Cipher.Poly1305

/-!
# Authenticated encryption under long nonces

The first 16 bytes of a nonce go into a subkey, the last 8 into the stream cipher's own nonce. Block 0 of
the stream keys the authenticator, the message is enciphered from block 1 on, and there is no data that
is authenticated only. The tag stands behind the ciphertext and is checked before anything is deciphered.
-/

namespace Pairing.XChaCha20Poly1305

def tagLength : Nat := 16

def nonceLength : Nat := 24

/-- As many zeros as fill the last chunk of 16 bytes. -/
def fill (m : Bytes) : Bytes := List.replicate ((16 - m.length % 16) % 16) 0

def innerKey (key : Block 32) (nonce : Block 24) : Block 32 :=
  ChaCha20.subkey key ⟨nonce.1.take 16, by simp [nonce.2]⟩

def innerNonce (nonce : Block 24) : Block 12 :=
  ⟨[0, 0, 0, 0] ++ nonce.1.drop 16, by simp [nonce.2]⟩

def cipher (key : Block 32) (nonce : Block 24) (m : Bytes) : Bytes :=
  ChaCha20.cipher (innerKey key nonce) (innerNonce nonce) 1 m

def tag (key : Block 32) (nonce : Block 24) (ciphertext : Bytes) : Block 16 :=
  let block := ChaCha20.block (innerKey key nonce) (innerNonce nonce) 0
  Poly1305.tag ⟨block.1.take 32, by simp [block.2]⟩
    (ciphertext ++ fill ciphertext ++ Bytes.littleEndian 8 0 ++
      Bytes.littleEndian 8 ciphertext.length)

def encrypt (key : Block 32) (nonce : Block 24) (plaintext : Bytes) : Bytes :=
  let c := cipher key nonce plaintext
  c ++ (tag key nonce c).1

/-- Nothing comes out unless the last 16 bytes are the tag of the bytes before them. -/
def decrypt? (key : Block 32) (nonce : Block 24) (sealed : Bytes) : Option Bytes :=
  let n := sealed.length - tagLength
  let c := sealed.take n
  if tagLength ≤ sealed.length ∧ sealed.drop n = (tag key nonce c).1 then
    some (cipher key nonce c)
  else none

end Pairing.XChaCha20Poly1305
