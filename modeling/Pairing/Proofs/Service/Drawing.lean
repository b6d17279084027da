import Pairing.Proofs.Barcode.Matrix
import Pairing.Proofs.Barcode.Picture
import Pairing.Proofs.Barcode.Png
import Pairing.Service.Basic

/-!
# Drawing a text under different options

`drawing_keeps_the_code`: text and level of error correction decide whether there is a barcode, and which.  The
size of a module and the quiet zone only decide how its one matrix is shown.  What a reader of the file sees is
said by `Picture.Shows`.
-/

namespace Pairing.Service

open Barcode

variable {text : String} {level : Level}

theorem drawBarcode_of_none (h : fit? level (Bytes.ofText text) = none) (size : Nat) (quietZone : Bool) :
    drawBarcode text ⟨level, size, quietZone⟩ = .error (.barcode
      (toString (Bytes.ofText text).length ++ " bytes do not fit in a QR code")) := by
  rw [drawBarcode, Picture.ofText?, Matrix.ofText?_eq_none h, Option.map_none]

theorem drawBarcode_of_matrix {m : Matrix} (o : Options)
    (h : Matrix.ofText? o.level (Bytes.ofText text) = some m) :
    drawBarcode text o = .ok ⟨Png.write (Picture.ofMatrix o.scale o.quiet m)⟩ := by
  rw [drawBarcode, Picture.ofText?, h, Option.map_some]

/-- The file of a code reads back as a picture that shows the code, if its width fits in four bytes. -/
theorem read?_write_ofMatrix {m : Matrix} {o : Options}
    (h : (m.width + 2 * o.quiet) * o.scale < Nat.pow 2 32) :
    Png.read? (Png.write (Picture.ofMatrix o.scale o.quiet m)) =
      some (Picture.ofMatrix o.scale o.quiet m) := by
  apply Png.read?_write
  rw [Picture.width_ofMatrix o.scale_pos]
  exact h

/-- **Options never change the code that is drawn.**  Either there is no barcode for the text at this level,
and all options fail alike; or there is one matrix, as wide as its version says, and under all options for
which the width of the picture fits in four bytes the file is that of a picture that shows this matrix. -/
theorem drawing_keeps_the_code (text : String) (level : Level) :
    (fit? level (Bytes.ofText text) = none ∧ ∀ (size : Nat) (quietZone : Bool),
      drawBarcode text ⟨level, size, quietZone⟩ = .error (.barcode
        (toString (Bytes.ofText text).length ++ " bytes do not fit in a QR code"))) ∨
    ∃ (v : Nat) (bits : List Bool) (m : Matrix),
      fit? level (Bytes.ofText text) = some (v, bits) ∧ (1 ≤ v ∧ v ≤ 40) ∧
      Matrix.ofText? level (Bytes.ofText text) = some m ∧ m.width = Version.width v ∧
      ∀ (size : Nat) (quietZone : Bool),
        (m.width + 2 * (if quietZone then 4 else 0)) * max size 1 < Nat.pow 2 32 →
        ∃ (file : Bytes) (p : Picture), drawBarcode text ⟨level, size, quietZone⟩ = .ok ⟨file⟩ ∧
          Png.read? file = some p ∧ Picture.Shows ⟨level, size, quietZone⟩ m p := by
  cases hfit : fit? level (Bytes.ofText text) with
  | none => exact Or.inl ⟨rfl, drawBarcode_of_none hfit⟩
  | some found =>
    obtain ⟨v, bits⟩ := found
    obtain ⟨m, hm, hwidth⟩ := Matrix.exists_ofText?_eq hfit
    have hversion := Version.mem_all_iff.mp (mem_all_of_fit? hfit)
    refine Or.inr ⟨v, bits, m, rfl, hversion, hm, hwidth, ?_⟩
    intro size quietZone hside
    let o : Options := ⟨level, size, quietZone⟩
    exact ⟨_, _, drawBarcode_of_matrix o hm, read?_write_ofMatrix (o := o) hside,
      Picture.shows_ofMatrix o m⟩

/-- The code of a short text is 21 modules wide, so that with the quiet zone and eight pixels a module its
picture is 232 pixels wide. -/
theorem hello_is_drawn : (21 + 2 * 4) * 8 < Nat.pow 2 32 ∧
    ∃ (m : Matrix) (file : Bytes) (p : Picture), m.width = 21 ∧
      Matrix.ofText? .low (Bytes.ofText "hello") = some m ∧ drawBarcode "hello" {} = .ok ⟨file⟩ ∧
      Png.read? file = some p ∧ Picture.Shows {} m p ∧ p.width = 232 := by
  have hfit : (fit? .low (Bytes.ofText "hello")).map Prod.fst = some 1 := by decide +kernel
  rcases drawing_keeps_the_code "hello" .low with ⟨hnone, -⟩ | ⟨v, bits, m, hv, -, hm, hwidth, hdraw⟩
  · rw [hnone] at hfit
    cases hfit
  · rw [hv] at hfit
    cases hfit
    have hside : (m.width + 2 * 4) * 8 < Nat.pow 2 32 := by rw [hwidth]; decide
    obtain ⟨file, p, hfile, hread, hshows⟩ := hdraw 8 true hside
    exact ⟨by decide, m, file, p, hwidth, hm, hfile, hread, hshows, by rw [hshows.width, hwidth]; rfl⟩

end Pairing.Service
