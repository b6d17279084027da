import Pairing.Barcode.Picture

/-!
# Pictures as PNG files

A picture is written as 8-bit greys without filters, in a deflate stream of stored blocks. Only files of
this form are read back.
-/

namespace Pairing.Barcode.Png

def crcTable : Array UInt32 := Array.ofFn fun i : Fin 256 =>
  (List.range 8).foldl (fun c _ => if c % 2 = 1 then c >>> 1 ^^^ 0xedb88320 else c >>> 1)
    (UInt32.ofNat i.1)

def crc (b : Bytes) : UInt32 :=
  (0xffffffff : UInt32) ^^^ b.foldl (fun (c : UInt32) x =>
    crcTable.getD ((c ^^^ x.toUInt32) % 256).toNat 0 ^^^ c >>> 8) 0xffffffff

/-- The sum of the bytes and the sum of these sums, each modulo 65521. -/
def adler (b : Bytes) : UInt32 :=
  let sums := b.foldl (fun (s : UInt32 × UInt32) x =>
    let low := (s.1 + x.toUInt32) % 65521
    (low, (s.2 + low) % 65521)) (1, 0)
  sums.2 <<< 16 ||| sums.1

def signature : Bytes := [0x89, 0x50, 0x4e, 0x47, 0x0d, 0x0a, 0x1a, 0x0a]

def chunk (kind : String) (content : Bytes) : Bytes :=
  let body := Bytes.ofText kind ++ content
  Bytes.bigEndian 4 content.length ++ body ++ Bytes.bigEndian 4 (crc body).toNat

/-- Bytes of a stored block at most. -/
def blockLength : Nat := 65535

def storedBlocks : List Bytes → Bytes
  | [] => []
  | b :: r =>
    (if r.isEmpty then 1 else 0) :: Bytes.littleEndian 2 b.length ++
      Bytes.littleEndian 2 (blockLength - b.length) ++ b ++ storedBlocks r

def deflate (b : Bytes) : Bytes :=
  [0x78, 0x01] ++ storedBlocks (chunks blockLength b) ++ Bytes.bigEndian 4 (adler b).toNat

/-- The rows of a picture, each behind the number of its filter. -/
def scanLines (p : Picture) : Bytes := p.rows.flatMap fun r => 0 :: r

def write (p : Picture) : Bytes :=
  signature ++
    chunk "IHDR" (Bytes.bigEndian 4 p.width ++ Bytes.bigEndian 4 p.width ++ [8, 0, 0, 0, 0]) ++
    chunk "IDAT" (deflate (scanLines p)) ++ chunk "IEND" []

/-- The picture whose file this is. -/
def read? (file : Bytes) : Option Picture :=
  let width := Bytes.ofBigEndian ((file.drop 16).take 4)
  let length := width * (width + 1)
  let lines := ((chunks (blockLength + 5) (file.drop 43)).flatMap (List.drop 5)).take length
  let cells := ((chunks (width + 1) lines).flatMap (List.drop 1)).toArray
  if h : cells.size = width * width then
    let p : Picture := ⟨width, cells, h⟩
    if write p = file then some p else none
  else none

end Pairing.Barcode.Png
