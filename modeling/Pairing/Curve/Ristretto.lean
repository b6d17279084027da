import Pairing.Curve.Edwards
import Pairing.ExchangeGroup.Basic
import Pairing.Hash.Sha2

/-!
# The ristretto255 group

Points that differ only by a point of small order are one element. Each element has one encoding of 32
bytes, and an `Element` is that encoding with the point it stands for, so equal elements are equal values.
-/

namespace Pairing.Ristretto

open Edwards (Point)

def invSqrtMinusOneMinusD : Coordinate :=
  54469307008909316920995813868745141605393597292927456921205312896311721017578

def sqrtMinusDMinusOne : Coordinate :=
  25063068953384623474111414158702152701244531502492656460079210482610430750235

def oneMinusDSquared : Coordinate := 1 - Edwards.d * Edwards.d

def dMinusOneSquared : Coordinate := (Edwards.d - 1) * (Edwards.d - 1)

/-- The encoding of the element to which a point belongs. -/
def compress (p : Point) : Block 32 :=
  let u := (p.z + p.y) * (p.z - p.y)
  let v := p.x * p.y
  let root := (Coordinate.sqrtRatio 1 (u * (v * v))).2
  let den1 := root * u
  let den2 := root * v
  let zInv := den1 * den2 * p.t
  let turn := (p.t * zInv).isNegative
  let x := if turn then p.y * Coordinate.sqrtMinusOne else p.x
  let y := if turn then p.x * Coordinate.sqrtMinusOne else p.y
  let den := if turn then den1 * invSqrtMinusOneMinusD else den2
  let y := if (x * zInv).isNegative then -y else y
  (den * (p.z - y)).abs.toBytes

/-- The point that an encoding stands for. -/
def decompress? (b : Block 32) : Option Point :=
  (Coordinate.ofCanonical? b).bind fun s =>
    let u₁ := 1 - s * s
    let u₂ := 1 + s * s
    let v := -(Edwards.d * (u₁ * u₁)) - u₂ * u₂
    let root := Coordinate.sqrtRatio 1 (v * (u₂ * u₂))
    let denX := root.2 * u₂
    let x := (2 * s * denX).abs
    let y := u₁ * (root.2 * denX * v)
    if root.1 && !(x * y).isNegative && y != 0 then some ⟨x, y, 1, x * y⟩ else none

/-- The point to which a coordinate is mapped. -/
def map (t : Coordinate) : Point :=
  let r := Coordinate.sqrtMinusOne * (t * t)
  let u := (r + 1) * oneMinusDSquared
  let v := (-1 - r * Edwards.d) * (r + Edwards.d)
  let root := Coordinate.sqrtRatio u v
  let s := if root.1 then root.2 else -(root.2 * t).abs
  let c := if root.1 then -1 else r
  let n := c * (r - 1) * dMinusOneSquared - v
  let w₀ := 2 * s * v
  let w₁ := n * sqrtMinusDMinusOne
  let w₂ := 1 - s * s
  let w₃ := 1 + s * s
  ⟨w₀ * w₃, w₂ * w₁, w₁ * w₃, w₀ * w₂⟩

structure Element where
  encoding : Block 32
  point : Point
  decompress_encoding : decompress? encoding = some point

namespace Element

theorem ext_encoding {p q : Element} (h : p.encoding = q.encoding) : p = q := by
  obtain ⟨b, x, hx⟩ := p
  obtain ⟨c, y, hy⟩ := q
  cases h
  cases hx.symm.trans hy
  rfl

instance : DecidableEq Element := fun p q =>
  if h : p.encoding = q.encoding then isTrue (ext_encoding h)
  else isFalse fun he => h (congrArg encoding he)

def zeroBlock : Block 32 := ⟨List.replicate 32 0, by decide⟩

theorem decompress?_zeroBlock : decompress? zeroBlock = some Point.zero := by decide +kernel

def identity : Element := ⟨zeroBlock, Point.zero, decompress?_zeroBlock⟩

/-- The element of a point. All points of the curve have one; others count as the identity. -/
def ofPoint (p : Point) : Element :=
  match h : decompress? (compress p) with
  | some q => ⟨compress p, q, h⟩
  | none => identity

def decode? (b : Block 32) : Option Element :=
  match h : decompress? b with
  | some p => some ⟨b, p, h⟩
  | none => none

/-- The element of 64 evenly distributed bytes. -/
def ofUniform (b : Block 64) : Element :=
  ofPoint ((map (Coordinate.ofBytes (b.1.take 32))).add (map (Coordinate.ofBytes (b.1.drop 32))))

end Element

def order : Nat := Nat.pow 2 252 + 27742317777372353535851937790883648493

structure Scalar where
  value : Nat
  value_lt : value < order
  deriving DecidableEq

namespace Scalar

def zero : Scalar := ⟨0, by decide⟩

def ofUniform (b : Block 64) : Scalar :=
  ⟨Bytes.ofLittleEndian b.1 % order, Nat.mod_lt _ (by decide)⟩

def toBytes (s : Scalar) : Block 32 := ⟨Bytes.littleEndian 32 s.value, by simp⟩

def sample (e : Entropy) : Except Error Scalar × Entropy :=
  match e.read 64 with
  | (.ok b, e) => (.ok (ofUniform b), e)
  | (.error err, e) => (.error err, e)

end Scalar

def elementLength : Nat := 32

def generatorLabel : Bytes := Bytes.ofText "pairlock-generator-v1"

/-- The password and the context, each behind its length, under a label of their own. -/
def generatorInput (password context : Bytes) : Bytes :=
  generatorLabel ++ Bytes.lengthPrefixed 8 password ++ Bytes.lengthPrefixed 8 context

def generator (password context : Bytes) : Element :=
  Element.ofUniform (sha512 (generatorInput password context))

/-- Accepts the encodings of all elements but the identity. -/
def decode (b : Bytes) : Except Error Element :=
  if h : b.length = elementLength then
    match Element.decode? ⟨b, h⟩ with
    | none => .error .elementEncoding
    | some p => if p = Element.identity then .error .elementIdentity else .ok p
  else .error .elementLength

instance : ExchangeGroup Element where
  Scalar := Scalar
  name := "ristretto255"
  elementLength := elementLength
  identity := Element.identity
  zero := Scalar.zero
  generator := generator
  sampleScalar := Scalar.sample
  smul s p := Element.ofPoint (p.point.nsmul s.value)
  encode p := p.encoding.1
  decode := decode
  isIdentity p := p == Element.identity

end Pairing.Ristretto
