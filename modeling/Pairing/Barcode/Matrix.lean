import Pairing.Barcode.Codeword
import Pairing.Barcode.Grid

/-!
# The modules of a barcode

Fixed patterns stand at places that the version decides; the codewords wind through all other places in
columns of two. A mask inverts some of the latter: the one under which the picture is plainest to read.
-/

namespace Pairing.Barcode

abbrev Matrix := Grid Bool

/-- The distance between two places, in the greater of their two coordinates. -/
def distance (x y x' y' : Nat) : Nat := max ((x - x') + (x' - x)) ((y - y') + (y' - y))

/-- `n`, followed by the remainder of its polynomial modulo a divisor of the given degree. -/
def withCheckBits (degree divisor n : Nat) : Nat :=
  n <<< degree ||| (List.range degree).foldl (fun r _ =>
    if r.testBit (degree - 1) then (2 * r) ^^^ divisor else 2 * r) n

/-- What a place shows: a colour that the version fixes, a bit of the format, or one of the codewords. -/
inductive Place
  | fixed (dark : Bool)
  | format (bit : Nat)
  | code
  deriving DecidableEq

namespace Version

/-- The version as larger squares show it. -/
def bits (v : Nat) : Nat := withCheckBits 12 0x1f25 v

/-- The centre of the alignment pattern around a place. Corners with a finder pattern have none. -/
def alignmentAt (v x y : Nat) : Option (Nat × Nat) :=
  let centres := alignment v
  let last := width v - 7
  centres.findSome? fun cx => centres.findSome? fun cy =>
    let corner := (cx, cy) ∈ [(6, 6), (6, last), (last, 6)]
    if distance x y cx cy ≤ 2 ∧ ¬ corner then some (cx, cy) else none

/-- The bit of the version's bits that a place shows. -/
def versionBitAt (v x y : Nat) : Option Nat :=
  let edge := width v - 11
  if v < 7 then none
  else if x < 6 ∧ edge ≤ y ∧ y < edge + 3 then some (3 * x + (y - edge))
  else if y < 6 ∧ edge ≤ x ∧ x < edge + 3 then some (3 * y + (x - edge))
  else none

/-- The bit of the format's bits that a place shows. -/
def formatBitAt (v x y : Nat) : Option Nat :=
  let w := width v
  if x = 8 ∧ y < 6 then some y
  else if x = 8 ∧ y = 7 then some 6
  else if x = 8 ∧ y = 8 then some 7
  else if x = 7 ∧ y = 8 then some 8
  else if y = 8 ∧ x < 6 then some (14 - x)
  else if y = 8 ∧ w ≤ x + 8 then some (w - 1 - x)
  else if x = 8 ∧ w ≤ y + 7 then some (y + 15 - w)
  else none

def placeAt (v x y : Nat) : Place :=
  let w := width v
  match [distance x y 3 3, distance x y (w - 4) 3, distance x y 3 (w - 4)].find? (· ≤ 4) with
  | some d => .fixed (d != 2 && d != 4)
  | none =>
    match alignmentAt v x y with
    | some c => .fixed (distance x y c.1 c.2 != 1)
    | none =>
      if x = 6 then .fixed (y % 2 == 0)
      else if y = 6 then .fixed (x % 2 == 0)
      else if x = 8 ∧ y = w - 8 then .fixed true
      else
        match versionBitAt v x y, formatBitAt v x y with
        | some i, _ => .fixed ((bits v).testBit i)
        | none, some i => .format i
        | none, none => .code

def places (v : Nat) : Grid Place := Grid.ofFn (width v) (placeAt v)

/-- All places in the order in which codewords fill them. -/
def path (v : Nat) : List (Nat × Nat) :=
  let w := width v
  (List.range (w / 2)).flatMap fun i =>
    let right := w - 1 - 2 * i
    let right := if right ≤ 6 then right - 1 else right
    let ys := if i % 2 = 0 then (List.range w).reverse else List.range w
    ys.flatMap fun y => [(right, y), (right - 1, y)]

end Version

namespace Matrix

/-- The bits of codewords on the places that are theirs. -/
def ofCodewords (v : Nat) (places : Grid Place) (codewords : List Nat) : Matrix :=
  let free := (Version.path v).filter fun p => places.get? p.1 p.2 = some .code
  (free.zip (codewords.flatMap (Segment.bits 8))).foldl (fun g (p, b) => g.set p.1 p.2 b)
    (Grid.replicate (Version.width v) false)

/-- Whether a mask inverts a place. -/
def inverts (mask x y : Nat) : Bool :=
  match mask with
  | 0 => (x + y) % 2 == 0
  | 1 => y % 2 == 0
  | 2 => x % 3 == 0
  | 3 => (x + y) % 3 == 0
  | 4 => (x / 3 + y / 2) % 2 == 0
  | 5 => x * y % 2 + x * y % 3 == 0
  | 6 => (x * y % 2 + x * y % 3) % 2 == 0
  | _ => ((x + y) % 2 + x * y % 3) % 2 == 0

/-- Level and mask with their check bits, in a fixed disguise that keeps them from being all light. -/
def formatBits (level : Level) (mask : Nat) : Nat :=
  withCheckBits 10 0x537 (level.indicator * 8 + mask) ^^^ 0x5412

def masked (places : Grid Place) (level : Level) (codes : Matrix) (mask : Nat) : Matrix :=
  let format := formatBits level mask
  Grid.ofFn places.width fun x y =>
    match places.get? x y with
    | some (.fixed dark) => dark
    | some (.format i) => format.testBit i
    | _ => (codes.get? x y).getD false != inverts mask x y

/-- Runs of five and more modules of one colour, by their length less two. -/
def runPenalty (line : List Bool) : Nat :=
  let count (n : Nat) := if n < 5 then 0 else n - 2
  let r := line.foldl (fun (r : Nat × Nat × Option Bool) b =>
    if r.2.2 == some b then (r.1, r.2.1 + 1, some b) else (r.1 + count r.2.1, 1, some b)) (0, 0, none)
  r.1 + count r.2.1

/-- Squares of two by two modules of one colour. -/
def squarePenalty : List Bool → List Bool → Nat
  | a :: b :: r, c :: d :: s =>
    (if a == b && a == c && a == d then 3 else 0) + squarePenalty (b :: r) (d :: s)
  | _, _ => 0

/-- Stretches that look like the middle of a finder pattern with four light modules on one side. -/
def finderPenalty : List Bool → Nat
  | [] => 0
  | b :: r =>
    (match b :: r with
    | s :: t :: u :: v :: true :: false :: true :: true :: true :: false :: true ::
        w :: x :: y :: z :: _ =>
      if !(s || t || u || v) || !(w || x || y || z) then 40 else 0
    | _ => 0) + finderPenalty r

def framed (line : List Bool) : List Bool :=
  List.replicate 4 false ++ line ++ List.replicate 4 false

/-- How far the share of dark modules is from one half, in half percents. -/
def balancePenalty (m : Matrix) : Nat :=
  let ratio := total (m.rows.map fun l => l.count true) * 200 / (m.width * m.width)
  (ratio - 100) + (100 - ratio)

def penalty (m : Matrix) : Nat :=
  let rows := m.rows
  let lines := rows ++ m.columns
  total (lines.map runPenalty) + total (List.zipWith squarePenalty rows (rows.drop 1)) +
    total (lines.map fun l => finderPenalty (framed l)) + balancePenalty m

/-- The first of the matrices with the least penalty. -/
def plainest (first : Matrix) (others : List Matrix) : Matrix :=
  (others.foldl (fun (best : Matrix × Nat) m =>
    let p := penalty m
    if p < best.2 then (m, p) else best) (first, penalty first)).1

/-- The modules of a text, if there is a version that holds it. -/
def ofText? (level : Level) (text : Bytes) : Option Matrix :=
  (fit? level text).map fun (v, bits) =>
    let places := Version.places v
    let codes := ofCodewords v places (Codeword.sequence v level bits)
    plainest (masked places level codes 0)
      ((List.range 7).map fun i => masked places level codes (i + 1))

end Matrix

end Pairing.Barcode
