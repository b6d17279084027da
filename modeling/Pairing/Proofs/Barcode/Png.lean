import Mathlib.Data.List.Basic
import Pairing.Barcode.Png
import Pairing.Proofs.Barcode.Grid
import Pairing.Proofs.Bytes

/-!
# Reading a picture back

`read?_write`: the file of a picture reads back as that picture, if its width fits in the four bytes that the
file has for it.  A reader need not know how long the parts of the file are: the width stands behind the first
16 bytes and the stored blocks behind the first 43 (`exists_layout`), each block behind five bytes of its own
(`exists_header`), so that cutting the file into stretches of a block and its header gives back what was
stored, and possibly more (`prefix_flatMap_drop_storedBlocks`).  The scan lines are told apart in the same way.
-/

namespace Pairing.Barcode.Png

/-! ### Stored blocks -/

theorem exists_header (b : Bytes) (r : List Bytes) :
    ∃ header : Bytes, header.length = 5 ∧ storedBlocks (b :: r) = header ++ (b ++ storedBlocks r) := by
  refine ⟨(if r.isEmpty then 1 else 0) :: Bytes.littleEndian 2 b.length ++
    Bytes.littleEndian 2 (blockLength - b.length), ?_, ?_⟩
  · simp
  · rw [storedBlocks, List.append_assoc, List.append_assoc]

/-- **Behind the headers of the blocks stands what was stored**, whatever follows the last block. -/
theorem prefix_flatMap_drop_storedBlocks (l tail : Bytes) :
    l <+: (chunks (blockLength + 5) (storedBlocks (chunks blockLength l) ++ tail)).flatMap
      (List.drop 5) := by
  have hpos : 0 < blockLength := by decide
  induction hk : l.length using Nat.strongRecOn generalizing l with
  | ind k ih =>
    by_cases hnil : l = []
    · rw [hnil]
      exact List.nil_prefix
    · have hlength := List.length_pos_iff.mpr hnil
      obtain ⟨header, hheader, hblocks⟩ :=
        exists_header (l.take blockLength) (chunks blockLength (l.drop blockLength))
      rw [chunks_of_ne_nil hpos hnil, hblocks]
      by_cases hle : blockLength ≤ l.length
      · -- A full block and its header are one stretch; the blocks behind it are cut by themselves.
        have hrest := ih (l.drop blockLength).length (by rw [List.length_drop]; omega) _ rfl
        have hblock : (header ++ l.take blockLength).length = blockLength + 5 := by
          rw [List.length_append, hheader, List.length_take_of_le hle, Nat.add_comm]
        rw [← List.append_assoc, List.append_assoc _ _ tail, chunks_append (by omega) hblock,
          List.flatMap_cons, List.drop_left' hheader]
        have hwhole := (List.prefix_append_right_inj (l.take blockLength)).mpr hrest
        rwa [List.take_append_drop] at hwhole
      · -- The last block stands in one stretch with some of the tail.
        have hshort : l.length ≤ blockLength := by omega
        have hne : header ++ (l.take blockLength ++
            storedBlocks (chunks blockLength (l.drop blockLength))) ++ tail ≠ [] := by
          intro happend
          have hzero := congrArg List.length happend
          simp only [List.length_append, hheader, List.length_nil] at hzero
          omega
        rw [chunks_of_ne_nil (by omega) hne, List.flatMap_cons, List.append_assoc, List.drop_take,
          List.drop_left' hheader, Nat.add_sub_cancel, List.take_of_length_le hshort,
          List.append_assoc, List.take_append, List.take_of_length_le hshort, List.append_assoc]
        exact List.prefix_append _ _

/-! ### Scan lines -/

theorem scanLines_eq (p : Picture) : scanLines p = (p.rows.map (0 :: ·)).flatten := by
  rw [scanLines, List.flatMap_def]

theorem length_of_mem_lines {p : Picture} {l : Bytes} (h : l ∈ p.rows.map (0 :: ·)) :
    l.length = p.width + 1 := by
  obtain ⟨r, hr, rfl⟩ := List.mem_map.mp h
  rw [List.length_cons, Grid.length_of_mem_rows hr]

theorem length_scanLines (p : Picture) : (scanLines p).length = p.width * (p.width + 1) := by
  have hlengths : (p.rows.map (0 :: ·)).map List.length = List.replicate p.width (p.width + 1) := by
    rw [List.eq_replicate_iff]
    constructor
    · simp [Grid.rows]
    · intro n hn
      obtain ⟨l, hl, rfl⟩ := List.mem_map.mp hn
      exact length_of_mem_lines hl
  rw [scanLines_eq, List.length_flatten, hlengths, List.sum_replicate_nat]

theorem flatMap_drop_scanLines (p : Picture) :
    (chunks (p.width + 1) (scanLines p)).flatMap (List.drop 1) = p.cells.toList := by
  rw [scanLines_eq, chunks_flatten (Nat.succ_pos _) fun _ => length_of_mem_lines, ← Grid.flatten_rows,
    List.flatMap_map]
  simp

/-! ### Files -/

/-- The width and the stored blocks stand behind fixed numbers of bytes. -/
theorem exists_layout (p : Picture) : ∃ front middle tail : Bytes,
    front.length = 16 ∧ middle.length = 23 ∧
      write p = front ++ (Bytes.bigEndian 4 p.width ++
        (middle ++ (storedBlocks (chunks blockLength (scanLines p)) ++ tail))) := by
  let header := Bytes.bigEndian 4 p.width ++ Bytes.bigEndian 4 p.width ++ [8, 0, 0, 0, 0]
  let content := deflate (scanLines p)
  refine ⟨signature ++ (Bytes.bigEndian 4 header.length ++ Bytes.ofText "IHDR"),
    Bytes.bigEndian 4 p.width ++ ([8, 0, 0, 0, 0] ++
      (Bytes.bigEndian 4 (crc (Bytes.ofText "IHDR" ++ header)).toNat ++
      (Bytes.bigEndian 4 content.length ++ (Bytes.ofText "IDAT" ++ [0x78, 0x01])))),
    Bytes.bigEndian 4 (adler (scanLines p)).toNat ++
      (Bytes.bigEndian 4 (crc (Bytes.ofText "IDAT" ++ content)).toNat ++ chunk "IEND" []), ?_, ?_, ?_⟩
  · rw [List.length_append, List.length_append, Bytes.length_bigEndian]
    rfl
  · simp only [List.length_append, Bytes.length_bigEndian]
    rfl
  · simp only [write, chunk, deflate, List.append_assoc, header, content]

theorem read?_of_parts {file : Bytes} {p : Picture}
    (hwidth : Bytes.ofBigEndian ((file.drop 16).take 4) = p.width)
    (hlines : ((chunks (blockLength + 5) (file.drop 43)).flatMap (List.drop 5)).take
      (p.width * (p.width + 1)) = scanLines p)
    (hfile : write p = file) : read? file = some p := by
  have hcells : ((chunks (p.width + 1) (scanLines p)).flatMap (List.drop 1)).toArray = p.cells := by
    rw [flatMap_drop_scanLines, Array.toArray_toList]
  rw [read?]
  dsimp only
  rw [hwidth, hlines, hcells, dif_pos p.size_cells, if_pos hfile]

/-- **A picture reads back from its file.** -/
theorem read?_write {p : Picture} (h : p.width < Nat.pow 2 32) : read? (write p) = some p := by
  obtain ⟨front, middle, tail, hfront, hmiddle, hwrite⟩ := exists_layout p
  apply read?_of_parts
  · rw [hwrite, List.drop_left' hfront, List.take_left' (Bytes.length_bigEndian 4 p.width)]
    exact Bytes.ofBigEndian_bigEndian h
  · have hstart : (front ++ (Bytes.bigEndian 4 p.width ++ middle)).length = 43 := by
      simp only [List.length_append, Bytes.length_bigEndian, hfront, hmiddle]
    rw [hwrite, ← List.append_assoc _ middle, ← List.append_assoc front, List.drop_left' hstart,
      ← length_scanLines]
    exact (List.prefix_iff_eq_take.mp (prefix_flatMap_drop_storedBlocks _ tail)).symm
  · rfl

end Pairing.Barcode.Png
