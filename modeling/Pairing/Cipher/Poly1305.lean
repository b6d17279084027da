import Pairing.Bytes

/-!
# The Poly1305 authenticator

A message's chunks of 16 bytes, each with a one byte on top, are the coefficients of a polynomial that is
evaluated at one half of the key and masked with the other.
-/

namespace Pairing.Poly1305

def modulus : Nat := Nat.pow 2 130 - 5

/-- The bits that the evaluation point may have. -/
def clamp : Nat := 0x0ffffffc0ffffffc0ffffffc0fffffff

def tag (key : Block 32) (m : Bytes) : Block 16 :=
  let r := Bytes.ofLittleEndian (key.1.take 16) &&& clamp
  let s := Bytes.ofLittleEndian (key.1.drop 16)
  let value := (chunks 16 m).foldl
    (fun acc c => (acc + Bytes.ofLittleEndian (c ++ [1])) * r % modulus) 0
  ⟨Bytes.littleEndian 16 (value + s), by simp⟩

end Pairing.Poly1305
