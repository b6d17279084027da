import Pairing.Barcode.Matrix

/-!
# Drawing a barcode

Each dark module is drawn as one square over a light canvas, with a quiet zone of four modules around all
if it is wanted.
-/

namespace Pairing.Barcode

structure Options where
  level : Level := .low
  moduleSize : Nat := 8
  quietZone : Bool := true
  deriving DecidableEq

namespace Options

/-- The side of a module in pixels, which is never nothing. -/
def scale (o : Options) : Nat := max o.moduleSize 1

/-- The width of the quiet zone in modules. -/
def quiet (o : Options) : Nat := if o.quietZone then 4 else 0

end Options

/-- Grey values: black is 0 and white is 255. -/
abbrev Picture := Grid UInt8

namespace Picture

def dark : UInt8 := 0

def light : UInt8 := 255

def drawModule (scale quiet : Nat) (m : Matrix) (picture : Picture) (x y : Nat) : Picture :=
  if m.get? x y = some true then
    picture.fill ((x + quiet) * scale) ((y + quiet) * scale) scale scale dark
  else picture

def ofMatrix (scale quiet : Nat) (m : Matrix) : Picture :=
  (List.range m.width).foldl (fun picture y =>
    (List.range m.width).foldl (fun picture x => drawModule scale quiet m picture x y) picture)
    (Grid.replicate ((m.width + 2 * quiet) * scale) light)

/-- The barcode of a text, if there is one that holds it. -/
def ofText? (text : String) (o : Options) : Option Picture :=
  (Matrix.ofText? o.level (Bytes.ofText text)).map (ofMatrix o.scale o.quiet)

end Picture

end Pairing.Barcode
