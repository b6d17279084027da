import Pairing.Bytes

/-!
# The field of `2 ^ 255 - 19` elements

Coordinates of curve points. A coordinate counts as negative if it is odd; of a square root and its
negation the one that is not negative is meant.
-/

namespace Pairing

def fieldOrder : Nat := Nat.pow 2 255 - 19

structure Coordinate where
  value : Nat
  value_lt : value < fieldOrder
  deriving DecidableEq

namespace Coordinate

def ofNat (n : Nat) : Coordinate := ⟨n % fieldOrder, Nat.mod_lt _ (by decide)⟩

instance : OfNat Coordinate n := ⟨ofNat n⟩

instance : Add Coordinate := ⟨fun a b => ofNat (a.value + b.value)⟩

instance : Neg Coordinate := ⟨fun a => ofNat (fieldOrder - a.value)⟩

instance : Sub Coordinate := ⟨fun a b => ofNat (a.value + (fieldOrder - b.value))⟩

instance : Mul Coordinate := ⟨fun a b => ofNat (a.value * b.value)⟩

def isNegative (a : Coordinate) : Bool := a.value % 2 == 1

def abs (a : Coordinate) : Coordinate := if a.isNegative then -a else a

/-- Square-and-multiply over the 255 bits that an exponent may have, highest first. -/
def pow (a : Coordinate) (n : Nat) : Coordinate :=
  (List.range 255).foldr (fun i r => if n.testBit i then r * r * a else r * r) 1

/-- A square root of `-1`. -/
def sqrtMinusOne : Coordinate :=
  19681161376707505956807079304988542015446066515923890162744021073123829784752

/-- The root of `u / v` if that is a square, and the root of `sqrtMinusOne * (u / v)` if it is not. -/
def sqrtRatio (u v : Coordinate) : Bool × Coordinate :=
  let v3 := v * v * v
  let r := u * v3 * (u * (v3 * v3 * v)).pow ((fieldOrder - 5) / 8)
  let check := v * (r * r)
  let flipped := check == -u
  let turned := check == -u * sqrtMinusOne
  (check == u || flipped, (if flipped || turned then sqrtMinusOne * r else r).abs)

/-- The coordinate that 32 bytes denote, whose highest bit does not count. -/
def ofBytes (b : Bytes) : Coordinate := ofNat (Bytes.ofLittleEndian b % Nat.pow 2 255)

/-- The coordinate whose bytes these are; it is less than the order and not negative. -/
def ofCanonical? (b : Block 32) : Option Coordinate :=
  let n := Bytes.ofLittleEndian b.1
  if h : n < fieldOrder then (if n % 2 = 0 then some ⟨n, h⟩ else none) else none

def toBytes (a : Coordinate) : Block 32 := ⟨Bytes.littleEndian 32 a.value, by simp⟩

end Coordinate

end Pairing
