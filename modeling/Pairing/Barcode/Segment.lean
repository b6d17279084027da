import Pairing.Bytes

/-!
# Segments of a barcode's text

A text is cut into segments, each written in the mode that its bytes allow: digits, the 45 characters of
the alphanumeric mode, double-byte characters, or any bytes. Neighbours are joined where that is not
longer.
-/

namespace Pairing.Barcode

inductive Mode
  | numeric
  | alphanumeric
  | byte
  | kanji
  deriving DecidableEq

namespace Mode

/-- The least mode that holds what either mode holds. -/
def join : Mode → Mode → Mode
  | numeric, m => if m = kanji then byte else m
  | m, numeric => if m = kanji then byte else m
  | m, n => if m = n then m else byte

def indicator : Mode → Nat
  | numeric => 1
  | alphanumeric => 2
  | byte => 4
  | kanji => 8

/-- Bits of the field that counts a segment's characters; it grows at versions 10 and 27. -/
def countBits (m : Mode) (version : Nat) : Nat :=
  match m with
  | numeric => if version < 10 then 10 else if version < 27 then 12 else 14
  | alphanumeric => if version < 10 then 9 else if version < 27 then 11 else 13
  | byte => if version < 10 then 8 else 16
  | kanji => if version < 10 then 8 else if version < 27 then 10 else 12

/-- Bits that `n` bytes of text take. -/
def dataBits (m : Mode) (n : Nat) : Nat :=
  match m with
  | numeric => n / 3 * 10 + (if n % 3 = 0 then 0 else n % 3 * 3 + 1)
  | alphanumeric => n / 2 * 11 + n % 2 * 6
  | byte => n * 8
  | kanji => n / 2 * 13

end Mode

def total (l : List Nat) : Nat := l.foldl (· + ·) 0

structure Segment where
  mode : Mode
  bytes : Bytes
  deriving DecidableEq

namespace Segment

def bitLength (s : Segment) (version : Nat) : Nat :=
  4 + s.mode.countBits version + s.mode.dataBits s.bytes.length

def join (s t : Segment) : Segment := ⟨s.mode.join t.mode, s.bytes ++ t.bytes⟩

/-- Joins `s` with the segments after it as long as that does not take more room. -/
def compactFrom (version : Nat) (s : Segment) : List Segment → List Segment
  | [] => [s]
  | t :: r =>
    let u := s.join t
    if u.bitLength version ≤ s.bitLength version + t.bitLength version then
      compactFrom version u r
    else s :: compactFrom version t r

def compact (version : Nat) : List Segment → List Segment
  | [] => []
  | s :: r => compactFrom version s r

/-- What a byte can be. The three ranges of lead bytes begin a double-byte character; after the last
lead byte only a low trail byte may follow. -/
inductive ByteClass
  | digit
  | letter
  | symbol
  | lead
  | leadHigh
  | leadLast
  | trailLow
  | trailHigh
  | other
  deriving DecidableEq

def ByteClass.of (b : UInt8) : ByteClass :=
  let n := b.toNat
  if 0x30 ≤ n ∧ n ≤ 0x39 then .digit
  else if 0x41 ≤ n ∧ n ≤ 0x5a then .letter
  else if n ∈ [0x20, 0x24, 0x25, 0x2a, 0x2b, 0x2d, 0x2e, 0x2f, 0x3a] then .symbol
  else if 0x81 ≤ n ∧ n ≤ 0x9f then .lead
  else if 0xe0 ≤ n ∧ n ≤ 0xea then .leadHigh
  else if n = 0xeb then .leadLast
  else if n = 0x40 ∨ (0x5b ≤ n ∧ n ≤ 0x7e) ∨ n = 0x80 ∨ (0xa0 ≤ n ∧ n ≤ 0xbf) then .trailLow
  else if (0xc0 ≤ n ∧ n ≤ 0xdf) ∨ (0xec ≤ n ∧ n ≤ 0xfc) then .trailHigh
  else .other

/-- What the bytes since the last cut are: nothing yet, a run in one mode, or whole double-byte
characters with a lead byte behind them. -/
inductive Run
  | nothing
  | plain (mode : Mode)
  | pairs
  | afterLead
  | afterLastLead
  deriving DecidableEq

/-- The run that a byte begins. -/
def Run.begunBy : ByteClass → Run
  | .digit => .plain .numeric
  | .letter | .symbol => .plain .alphanumeric
  | .lead | .leadHigh => .afterLead
  | .leadLast => .afterLastLead
  | .trailLow | .trailHigh | .other => .plain .byte

/-- The run after one more byte, unless that byte does not belong to it. -/
def Run.extendedBy : Run → ByteClass → Option Run
  | .plain .numeric, .digit => some (.plain .numeric)
  | .plain .alphanumeric, .letter => some (.plain .alphanumeric)
  | .plain .alphanumeric, .symbol => some (.plain .alphanumeric)
  | .plain .byte, .trailLow => some (.plain .byte)
  | .plain .byte, .trailHigh => some (.plain .byte)
  | .plain .byte, .other => some (.plain .byte)
  | .pairs, .lead => some .afterLead
  | .pairs, .leadHigh => some .afterLead
  | .pairs, .leadLast => some .afterLastLead
  | .afterLead, c =>
    if c ∈ [.letter, .lead, .leadHigh, .leadLast, .trailLow, .trailHigh] then some .pairs else none
  | .afterLastLead, c => if c ∈ [.letter, .lead, .trailLow] then some .pairs else none
  | _, _ => none

/-- A lead byte without its trail byte is a segment of its own. -/
def Run.cut (run : Run) (bytes : Bytes) : List Segment :=
  match run with
  | .nothing => []
  | .plain mode => [⟨mode, bytes⟩]
  | .pairs => [⟨.kanji, bytes⟩]
  | .afterLead | .afterLastLead =>
    let n := bytes.length - 1
    (if n = 0 then [] else [⟨.kanji, bytes.take n⟩]) ++ [⟨.byte, bytes.drop n⟩]

/-- Cuts a text; `held` is the run so far, its last byte first. -/
def splitFrom (run : Run) (held : Bytes) : Bytes → List Segment
  | [] => run.cut held.reverse
  | b :: r =>
    match run.extendedBy (.of b) with
    | some next => splitFrom next (b :: held) r
    | none => run.cut held.reverse ++ splitFrom (.begunBy (.of b)) [b] r

def ofBytes (text : Bytes) : List Segment := splitFrom .nothing [] text

/-- The `k` lowest bits of a number, highest first. -/
def bits (k n : Nat) : List Bool := (List.range k).reverse.map n.testBit

def alphanumerics : List UInt8 := Bytes.ofText "0123456789ABCDEFGHIJKLMNOPQRSTUVWXYZ $%*+-./:"

def numericBits : List Nat → List Bool
  | a :: b :: c :: r => bits 10 (a * 100 + b * 10 + c) ++ numericBits r
  | [a, b] => bits 7 (a * 10 + b)
  | [a] => bits 4 a
  | [] => []

def alphanumericBits : List Nat → List Bool
  | a :: b :: r => bits 11 (a * 45 + b) ++ alphanumericBits r
  | [a] => bits 6 a
  | [] => []

/-- Double-byte characters are numbered without the gap between their two ranges. -/
def kanjiBits : List Nat → List Bool
  | a :: b :: r =>
    let n := a * 256 + b
    let m := if n < 0xe040 then n - 0x8140 else n - 0xc140
    bits 13 (m / 256 * 0xc0 + m % 256) ++ kanjiBits r
  | _ => []

def toBits (s : Segment) (version : Nat) : List Bool :=
  let n := s.bytes.length
  let header count := bits 4 s.mode.indicator ++ bits (s.mode.countBits version) count
  match s.mode with
  | .numeric => header n ++ numericBits (s.bytes.map fun b => b.toNat - 0x30)
  | .alphanumeric => header n ++ alphanumericBits (s.bytes.map alphanumerics.idxOf)
  | .byte => header n ++ s.bytes.flatMap fun b => bits 8 b.toNat
  | .kanji => header (n / 2) ++ kanjiBits (s.bytes.map UInt8.toNat)

end Segment

end Pairing.Barcode
