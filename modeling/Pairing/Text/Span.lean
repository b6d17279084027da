import Pairing.Registry.Basic

/-!
# Spans of time as text

A span is written in the largest of four units of which it has at least one, with as many decimal
places as it takes.
-/

namespace Pairing.Text

/-- The digits of a fraction with so many decimal places, without zeros at the end. -/
def fraction (places n : Nat) : List Char :=
  let digits := Nat.toDigits 10 n
  ((List.replicate (places - digits.length) '0' ++ digits).reverse.dropWhile (· == '0')).reverse

/-- A number of parts, of which a unit has that power of ten. -/
def inUnit (parts places : Nat) (unit : String) : String :=
  let tail := fraction places (parts % Nat.pow 10 places)
  toString (parts / Nat.pow 10 places) ++ String.ofList (if tail.isEmpty then [] else '.' :: tail) ++ unit

def span (t : Time) : String :=
  if Time.ofSeconds 1 ≤ t then inUnit t 9 "s"
  else if 1000000 ≤ t then inUnit t 6 "ms"
  else if 1000 ≤ t then inUnit t 3 "µs"
  else inUnit t 0 "ns"

end Pairing.Text
