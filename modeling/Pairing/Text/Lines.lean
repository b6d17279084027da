import Pairing.Bytes

/-!
# Lines of input

A line ends at a line feed, with which one carriage return before it goes too. What stands after the last
line feed is a line if it is anything at all.
-/

namespace Pairing.Text

def lineFeed : UInt8 := 10

def carriageReturn : UInt8 := 13

/-- A line without the carriage return at its end; the line's bytes stand last first. -/
def endedLine : Bytes → Bytes
  | [] => []
  | b :: r => if b = carriageReturn then r.reverse else (b :: r).reverse

/-- The lines of the input behind a beginning that was read; `held` stands last byte first. -/
def linesFrom (held : Bytes) : Bytes → List Bytes
  | [] => if held.isEmpty then [] else [held.reverse]
  | b :: r => if b = lineFeed then endedLine held :: linesFrom [] r else linesFrom (b :: held) r

def lines (input : Bytes) : List Bytes := linesFrom [] input

end Pairing.Text
