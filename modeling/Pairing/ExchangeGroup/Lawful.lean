import Pairing.ExchangeGroup.Basic

/-!
# Laws of a group for the handshake

The laws under which both parties arrive at the same secret. Elements have encodings of one length; that of
the identity is never accepted, and any other is decoded to its element; and the order of two scalar
multiplications does not matter.
-/

namespace Pairing

open ExchangeGroup

/-- All elements have encodings of the group's element length. -/
class FixedLengthGroup (E : Type) [ExchangeGroup E] : Prop where
  length_encode (p : E) : (encode p).length = elementLength E

class LawfulExchangeGroup (E : Type) [ExchangeGroup E] : Prop extends FixedLengthGroup E where
  isIdentity_iff (p : E) : isIdentity p = true ↔ p = identity
  decode_encode (p : E) : p ≠ identity → decode (encode p) = .ok p
  decode_encode_identity (p : E) : decode (encode (identity : E)) ≠ .ok p
  smul_comm (a b : Scalar E) (p : E) : smul a (smul b p) = smul b (smul a p)
  smul_identity (a : Scalar E) : smul a (identity : E) = identity

/-- Only zero takes an element other than the identity to the identity, as in every group of prime order. -/
class PrimeOrderGroup (E : Type) [ExchangeGroup E] : Prop extends LawfulExchangeGroup E where
  eq_of_smul_eq (a : Scalar E) (p : E) : smul a p = identity → a = zero ∨ p = identity

end Pairing
