import Pairing.Barcode.Version

/-!
# Codewords

The bits of a text become codewords of eight bits. They are shared out between blocks, each block gets its
error-correction codewords, and the blocks are interleaved.
-/

namespace Pairing.Barcode

namespace Codeword

/-- A product in the field of 256 elements, summed up from the bits of `b`, highest first. -/
def mul (a b : Nat) : Nat :=
  (List.range 8).foldr (fun i r =>
    let twice := if r < 128 then 2 * r else (2 * r) ^^^ 0x11d
    if b.testBit i then twice ^^^ a else twice) 0

/-- The generator polynomial of a degree, without its leading coefficient, highest first. -/
def divisor (degree : Nat) : List Nat :=
  ((List.range degree).foldl (fun (p : List Nat × Nat) _ =>
    (List.zipWith (fun a b => mul a p.2 ^^^ b) p.1 (p.1.drop 1 ++ [0]), mul p.2 2))
    (List.replicate (degree - 1) 0 ++ [1], 1)).1

/-- The remainder of a block's polynomial, shifted by the degree, modulo the divisor. -/
def correction (divisor : List Nat) (block : List Nat) : List Nat :=
  block.foldl (fun r b =>
    let factor := b ^^^ r.headD 0
    List.zipWith (fun a c => a ^^^ mul c factor) (r.drop 1 ++ [0]) divisor)
    (List.replicate divisor.length 0)

/-- The number of a row of bits, highest first. -/
def ofRow (l : List Bool) : Nat := l.foldl (fun n b => 2 * n + b.toNat) 0

/-- Eight bits a codeword, the last one filled up with zero bits. -/
def ofBits (l : List Bool) : List Nat :=
  (chunks 8 l).map fun c => ofRow (c ++ List.replicate (8 - c.length) false)

/-- The codewords of a text: up to four zero bits end it, and two codewords in turn fill the rest. -/
def ofText (v : Nat) (level : Level) (text : List Bool) : List Nat :=
  let room := Version.capacity v level
  let ended := text ++ List.replicate (min 4 (room - text.length)) false
  let used := ofBits ended
  used ++ (List.range (Version.dataLength v level - used.length)).map fun i =>
    if i % 2 = 0 then 0xec else 0x11

/-- Shares codewords out between `n` blocks of which the last ones may be longer by one. -/
def blocks (n : Nat) (l : List Nat) : List (List Nat) :=
  let short := l.length / n
  let shortCount := n - l.length % n
  (List.range n).map fun i =>
    (l.drop (i * short + (i - shortCount))).take (if i < shortCount then short else short + 1)

/-- First entries first. -/
def interleave (ls : List (List Nat)) : List Nat :=
  (List.range ((ls.map List.length).foldl max 0)).flatMap fun i => ls.filterMap fun l => l[i]?

/-- All codewords in the order in which they are drawn. -/
def sequence (v : Nat) (level : Level) (text : List Bool) : List Nat :=
  let ls := blocks (Version.blockCount v level) (ofText v level text)
  let divisor := divisor (Version.correctionLength v level)
  interleave ls ++ interleave (ls.map (correction divisor))

end Codeword

end Pairing.Barcode
