import Pairing.Barcode.Segment

/-!
# Sizes of a barcode

A version from 1 to 40 and a level of error correction fix the width of the square, how many codewords it
holds, and how they are shared out between blocks.
-/

namespace Pairing.Barcode

/-- Levels of error correction, from the least redundant on. -/
inductive Level
  | low
  | medium
  | quartile
  | high
  deriving DecidableEq

/-- The level's number in the format field. -/
def Level.indicator : Level → Nat
  | .low => 1
  | .medium => 0
  | .quartile => 3
  | .high => 2

def correctionTable : Level → List Nat
  | .low => [
      7, 10, 15, 20, 26, 18, 20, 24, 30, 18, 20, 24, 26, 30, 22, 24, 28, 30, 28, 28,
      28, 28, 30, 30, 26, 28, 30, 30, 30, 30, 30, 30, 30, 30, 30, 30, 30, 30, 30, 30]
  | .medium => [
      10, 16, 26, 18, 24, 16, 18, 22, 22, 26, 30, 22, 22, 24, 24, 28, 28, 26, 26, 26,
      26, 28, 28, 28, 28, 28, 28, 28, 28, 28, 28, 28, 28, 28, 28, 28, 28, 28, 28, 28]
  | .quartile => [
      13, 22, 18, 26, 18, 24, 18, 22, 20, 24, 28, 26, 24, 20, 30, 24, 28, 28, 26, 30,
      28, 30, 30, 30, 30, 28, 30, 30, 30, 30, 30, 30, 30, 30, 30, 30, 30, 30, 30, 30]
  | .high => [
      17, 28, 22, 16, 22, 28, 26, 26, 24, 28, 24, 28, 22, 24, 24, 30, 28, 28, 26, 28,
      30, 24, 30, 30, 30, 30, 30, 30, 30, 30, 30, 30, 30, 30, 30, 30, 30, 30, 30, 30]

def blockTable : Level → List Nat
  | .low => [
      1, 1, 1, 1, 1, 2, 2, 2, 2, 4, 4, 4, 4, 4, 6, 6, 6, 6, 7, 8,
      8, 9, 9, 10, 12, 12, 12, 13, 14, 15, 16, 17, 18, 19, 19, 20, 21, 22, 24, 25]
  | .medium => [
      1, 1, 1, 2, 2, 4, 4, 4, 5, 5, 5, 8, 9, 9, 10, 10, 11, 13, 14, 16,
      17, 17, 18, 20, 21, 23, 25, 26, 28, 29, 31, 33, 35, 37, 38, 40, 43, 45, 47, 49]
  | .quartile => [
      1, 1, 2, 2, 4, 4, 6, 6, 8, 8, 8, 10, 12, 16, 12, 17, 16, 18, 21, 20,
      23, 23, 25, 27, 29, 34, 34, 35, 38, 40, 43, 45, 48, 51, 53, 56, 59, 62, 65, 68]
  | .high => [
      1, 1, 2, 4, 4, 4, 5, 6, 8, 8, 11, 11, 16, 16, 18, 16, 19, 21, 25, 25,
      25, 34, 30, 32, 35, 37, 40, 42, 45, 48, 51, 54, 57, 60, 63, 66, 70, 74, 77, 81]

namespace Version

def width (v : Nat) : Nat := 4 * v + 17

/-- Modules that hold codewords, in all of them. -/
def moduleCount (v : Nat) : Nat :=
  let n := v / 7 + 2
  let aligned := if v < 2 then 0 else (25 * n - 10) * n - 55
  (16 * v + 128) * v + 64 - aligned - (if v < 7 then 0 else 36)

def codewordCount (v : Nat) : Nat := moduleCount v / 8

/-- Error-correction codewords of each block. -/
def correctionLength (v : Nat) (level : Level) : Nat := (correctionTable level).getD (v - 1) 0

def blockCount (v : Nat) (level : Level) : Nat := (blockTable level).getD (v - 1) 1

def dataLength (v : Nat) (level : Level) : Nat :=
  codewordCount v - correctionLength v level * blockCount v level

/-- Bits of text, headers included, that a barcode holds. -/
def capacity (v : Nat) (level : Level) : Nat := 8 * dataLength v level

def all : List Nat := (List.range 40).map (· + 1)

/-- The coordinates on which alignment patterns are centred. -/
def alignment (v : Nat) : List Nat :=
  if v < 2 then []
  else
    let n := v / 7 + 2
    let step := (v * 8 + n * 3 + 5) / (n * 4 - 4) * 2
    6 :: ((List.range (n - 1)).reverse.map fun i => width v - 7 - i * step)

end Version

/-- The least version that holds a text, with the text's bits. The segments are joined for the largest
version whose length fields are as wide. -/
def fit? (level : Level) (text : Bytes) : Option (Nat × List Bool) :=
  let segments := Segment.ofBytes text
  [9, 26, 40].findSome? fun last =>
    let compact := Segment.compact last segments
    let length := total (compact.map fun s => s.bitLength last)
    if length ≤ Version.capacity last level then
      (Version.all.find? fun v => length ≤ Version.capacity v level).map fun v =>
        (v, compact.flatMap fun s => s.toBits v)
    else none

end Pairing.Barcode
