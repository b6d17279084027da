import Pairing.Entropy

/-!
# Groups for the handshake

What the handshake asks of a group: a generator for each password and context, random scalars, and
elements that travel as byte strings. The laws that these have to keep stand apart.
-/

namespace Pairing

class ExchangeGroup (E : Type) where
  Scalar : Type
  name : String
  elementLength : Nat
  identity : E
  zero : Scalar
  generator : (password context : Bytes) → E
  sampleScalar : Entropy → Except Error Scalar × Entropy
  smul : Scalar → E → E
  encode : E → Bytes
  decode : Bytes → Except Error E
  isIdentity : E → Bool

end Pairing
