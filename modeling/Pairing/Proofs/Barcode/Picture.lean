import Pairing.Barcode.Picture
import Pairing.Proofs.Barcode.Grid

/-!
# The pixels of a drawn barcode

A pixel is dark exactly if the module under it is (`get?_ofMatrix`).  Which module that is, is read off the
pixel's coordinates by division (`moduleUnder?`); the drawing goes the other way round, from each dark module to
the square of pixels that shows it.  That both agree, the quiet zone included, is `painted_ofMatrix`.  So the
picture of a code is the one that `Shows` describes, whatever the options are (`shows_ofMatrix`).
-/

namespace Pairing.Barcode

theorem Options.scale_pos (o : Options) : 0 < o.scale :=
  Nat.lt_of_lt_of_le Nat.zero_lt_one (Nat.le_max_right _ _)

namespace Picture

open Grid

variable {scale quiet : Nat} {m : Matrix}

/-- The module that a pixel belongs to.  In the quiet zone there is none. -/
def moduleUnder? (scale quiet : Nat) (m : Matrix) (x y : Nat) : Option Bool :=
  if quiet ≤ x / scale ∧ quiet ≤ y / scale then
    m.get? (x / scale - quiet) (y / scale - quiet)
  else none

theorem div_eq_iff_mem_stretch {s i x : Nat} (hs : 0 < s) :
    x / s = i ↔ i * s ≤ x ∧ x < i * s + s := by
  rw [Nat.div_eq_iff hs]
  omega

theorem moduleUnder?_eq_some_iff {x y : Nat} {b : Bool} :
    moduleUnder? scale quiet m x y = some b ↔
      ∃ i j, m.get? i j = some b ∧ x / scale = i + quiet ∧ y / scale = j + quiet := by
  rw [moduleUnder?]
  constructor
  · intro h
    split at h
    · rename_i hquiet
      exact ⟨_, _, h, by omega, by omega⟩
    · cases h
  · rintro ⟨i, j, hb, hx, hy⟩
    rw [hx, hy, if_pos ⟨Nat.le_add_left _ _, Nat.le_add_left _ _⟩, Nat.add_sub_cancel,
      Nat.add_sub_cancel, hb]

/-! ### What is drawn -/

theorem painted_drawModule (hscale : 0 < scale) (quiet : Nat) (m : Matrix) (i j : Nat)
    (picture : Picture) :
    Painted dark
      (fun x y => m.get? i j = some true ∧ x / scale = i + quiet ∧ y / scale = j + quiet) picture
      (drawModule scale quiet m picture i j) := by
  rw [drawModule]
  split
  · rename_i hdark
    refine (painted_fill _ _ scale scale picture).congr ?_
    intro x y
    rw [div_eq_iff_mem_stretch hscale, div_eq_iff_mem_stretch hscale]
    simp only [hdark, true_and]
  · rename_i hlight
    exact painted_nothing fun x y hin => hlight hin.1

/-- **The dark pixels are those over dark modules.** -/
theorem painted_ofMatrix (hscale : 0 < scale) (quiet : Nat) (m : Matrix) :
    Painted dark (fun x y => moduleUnder? scale quiet m x y = some true)
      (Grid.replicate ((m.width + 2 * quiet) * scale) light) (ofMatrix scale quiet m) := by
  have hrow (j : Nat) (picture : Picture) := painted_foldl (List.range m.width)
    (fun i _ picture => painted_drawModule hscale quiet m i j picture) picture
  refine (painted_foldl (List.range m.width) (fun j _ picture => hrow j picture) _).congr ?_
  intro x y
  rw [moduleUnder?_eq_some_iff]
  constructor
  · rintro ⟨i, j, hdark, hplace⟩
    obtain ⟨hi, hj⟩ := lt_of_get?_eq_some hdark
    exact ⟨j, List.mem_range.mpr hj, i, List.mem_range.mpr hi, hdark, hplace⟩
  · rintro ⟨j, -, i, -, hdark, hplace⟩
    exact ⟨i, j, hdark, hplace⟩

theorem width_ofMatrix (hscale : 0 < scale) :
    (ofMatrix scale quiet m).width = (m.width + 2 * quiet) * scale :=
  (painted_ofMatrix hscale quiet m).width

/-- **A pixel shows the module under it**, and light where there is none. -/
theorem get?_ofMatrix (hscale : 0 < scale) (x y : Nat) :
    (ofMatrix scale quiet m).get? x y =
      if x < (m.width + 2 * quiet) * scale ∧ y < (m.width + 2 * quiet) * scale then
        some (if moduleUnder? scale quiet m x y = some true then dark else light)
      else none := by
  have hpainted := painted_ofMatrix hscale quiet m
  by_cases hdark : moduleUnder? scale quiet m x y = some true
  · rw [hpainted.inside x y hdark, get?_replicate, if_pos hdark]
    split <;> rfl
  · rw [hpainted.outside x y hdark, get?_replicate, if_neg hdark]

/-- One dark module of one pixel with a quiet zone of one module. -/
example : (ofMatrix 1 1 (Grid.replicate 1 true)).rows =
    [[255, 255, 255], [255, 0, 255], [255, 255, 255]] := by decide

/-- What a picture of a code looks like: a square of the code's modules and the quiet zone on each side, in
which a pixel is black over a dark module and white everywhere else. -/
structure Shows (o : Options) (m : Matrix) (p : Picture) : Prop where
  width : p.width = (m.width + 2 * o.quiet) * o.scale
  pixel : ∀ x y, p.get? x y =
    if x < p.width ∧ y < p.width then
      some (if moduleUnder? o.scale o.quiet m x y = some true then 0 else 255)
    else none

theorem shows_ofMatrix (o : Options) (m : Matrix) : Shows o m (ofMatrix o.scale o.quiet m) where
  width := width_ofMatrix o.scale_pos
  pixel := by
    intro x y
    rw [width_ofMatrix o.scale_pos]
    exact get?_ofMatrix o.scale_pos x y

end Picture

end Pairing.Barcode
