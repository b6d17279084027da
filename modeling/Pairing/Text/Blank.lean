/-!
# Blank characters

The characters of the White_Space property, and texts without them at their ends.
-/

namespace Pairing.Text

def isBlank (c : Char) : Bool :=
  let n := c.toNat
  (9 ≤ n && n ≤ 13) || n == 0x20 || n == 0x85 || n == 0xa0 || n == 0x1680 ||
    (0x2000 ≤ n && n ≤ 0x200a) || n == 0x2028 || n == 0x2029 || n == 0x202f || n == 0x205f ||
    n == 0x3000

/-- All that stands between the first and the last character that is not blank. -/
def trim (l : List Char) : List Char := ((l.dropWhile isBlank).reverse.dropWhile isBlank).reverse

def trimText (t : String) : String := String.ofList (trim t.toList)

end Pairing.Text
