import Pairing.Curve.Coordinate

/-!
# Points of the curve `y² - x² = 1 + d x² y²`

A point is kept as four coordinates with `x = X / Z`, `y = Y / Z` and `x y = T / Z`. One addition serves
for all points, equal ones included.
-/

namespace Pairing.Edwards

def d : Coordinate :=
  37095705934669439343138083508754565189542113879843219016388785533085940283555

structure Point where
  x : Coordinate
  y : Coordinate
  z : Coordinate
  t : Coordinate
  deriving DecidableEq

namespace Point

def zero : Point := ⟨0, 1, 1, 0⟩

def add (p q : Point) : Point :=
  let a := (p.y - p.x) * (q.y - q.x)
  let b := (p.y + p.x) * (q.y + q.x)
  let c := 2 * d * p.t * q.t
  let e := 2 * p.z * q.z
  ⟨(b - a) * (e - c), (e + c) * (b + a), (e - c) * (e + c), (b - a) * (b + a)⟩

/-- Double-and-add over the 256 bits that a factor may have, highest first. -/
def nsmul (n : Nat) (p : Point) : Point :=
  (List.range 256).foldr (fun i q => if n.testBit i then (q.add q).add p else q.add q) zero

end Point

end Pairing.Edwards
