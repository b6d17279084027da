import Mathlib.Data.List.Basic
import Pairing.Barcode.Grid

/-!
# Painting a grid

`Painted a region g g'` says that `g'` is `g` with one value on all places of a region and no other change.
Writing a single place is painting (`painted_set`), and what is painted step by step is painted as a whole
(`painted_foldl`), so a filled rectangle is (`painted_fill`), whatever of it lies outside of the grid.

The rows of a grid, one after the other, are its cells (`flatten_rows`).
-/

namespace Pairing.Barcode.Grid

variable {α : Type}

/-! ### Places -/

/-- Places of different columns or rows are different cells. -/
theorem place_inj {w x y x' y' : Nat} (hx : x < w) (hx' : x' < w)
    (h : y * w + x = y' * w + x') : x = x' ∧ y = y' := by
  have hw : 0 < w := by omega
  have hcolumn : (y * w + x) % w = (y' * w + x') % w := congrArg (· % w) h
  have hrow : (x + y * w) / w = (x' + y' * w) / w := by
    rw [Nat.add_comm x, Nat.add_comm x', h]
  rw [Nat.mul_add_mod_self_right, Nat.mul_add_mod_self_right, Nat.mod_eq_of_lt hx,
    Nat.mod_eq_of_lt hx'] at hcolumn
  rw [Nat.add_mul_div_right _ _ hw, Nat.add_mul_div_right _ _ hw, Nat.div_eq_of_lt hx,
    Nat.div_eq_of_lt hx', Nat.zero_add, Nat.zero_add] at hrow
  exact ⟨hcolumn, hrow⟩

theorem place_lt_iff {w x y : Nat} (hx : x < w) : y * w + x < w * w ↔ y < w := by
  constructor
  · intro h
    by_contra hy
    have hle : w * w ≤ y * w := Nat.mul_le_mul_right w (by omega)
    omega
  · intro hy
    have hle : (y + 1) * w ≤ w * w := Nat.mul_le_mul_right w hy
    rw [Nat.succ_mul] at hle
    omega

theorem get?_of_lt (g : Grid α) {x : Nat} (hx : x < g.width) (y : Nat) :
    g.get? x y = g.cells[y * g.width + x]? := by
  rw [get?, if_pos hx]

theorem get?_of_le (g : Grid α) {x : Nat} (hx : g.width ≤ x) (y : Nat) : g.get? x y = none := by
  rw [get?, if_neg (by omega)]

theorem lt_of_get?_eq_some {g : Grid α} {x y : Nat} {a : α} (h : g.get? x y = some a) :
    x < g.width ∧ y < g.width := by
  by_cases hx : x < g.width
  · rw [g.get?_of_lt hx] at h
    obtain ⟨hsize, -⟩ := Array.getElem?_eq_some_iff.mp h
    rw [g.size_cells] at hsize
    exact ⟨hx, (place_lt_iff hx).mp hsize⟩
  · rw [g.get?_of_le (Nat.le_of_not_lt hx)] at h
    cases h

theorem get?_replicate (w : Nat) (a : α) (x y : Nat) :
    (replicate w a).get? x y = if x < w ∧ y < w then some a else none := by
  by_cases hx : x < w
  · rw [get?_of_lt _ hx, replicate, Array.getElem?_replicate]
    simp only [place_lt_iff hx, hx, true_and]
  · rw [get?_of_le _ (Nat.le_of_not_lt hx), if_neg (fun h => hx h.1)]

@[simp] theorem width_set (g : Grid α) (x y : Nat) (a : α) : (g.set x y a).width = g.width := by
  rw [set]
  split <;> rfl

theorem get?_set (g : Grid α) (x y : Nat) (a : α) (x' y' : Nat) :
    (g.set x y a).get? x' y' =
      if x' = x ∧ y' = y then (g.get? x' y').map fun _ => a else g.get? x' y' := by
  by_cases hx' : x' < g.width
  · rw [get?_of_lt _ (by rw [width_set]; exact hx'), width_set, g.get?_of_lt hx', set]
    split
    · rename_i hx
      rw [Array.getElem?_setIfInBounds]
      by_cases heq : x' = x ∧ y' = y
      · obtain ⟨rfl, rfl⟩ := heq
        rw [if_pos rfl, if_pos (And.intro rfl rfl)]
        split
        · rename_i hsize
          rw [Array.getElem?_eq_getElem hsize, Option.map_some]
        · rename_i hsize
          rw [Array.getElem?_eq_none (Nat.le_of_not_lt hsize), Option.map_none]
      · rw [if_neg heq, if_neg]
        intro hplace
        obtain ⟨hcolumn, hrow⟩ := place_inj hx hx' hplace
        exact heq ⟨hcolumn.symm, hrow.symm⟩
    · rename_i hx
      rw [if_neg]
      rintro ⟨rfl, -⟩
      exact hx hx'
  · have hle := Nat.le_of_not_lt hx'
    rw [get?_of_le _ (by rw [width_set]; exact hle), g.get?_of_le hle, Option.map_none, ite_self]

/-! ### Regions -/

/-- All places of a region show the value; all other places, and the width, are as before. -/
structure Painted (a : α) (region : Nat → Nat → Prop) (g g' : Grid α) : Prop where
  width : g'.width = g.width
  inside : ∀ x y, region x y → g'.get? x y = (g.get? x y).map fun _ => a
  outside : ∀ x y, ¬ region x y → g'.get? x y = g.get? x y

variable {a : α} {region : Nat → Nat → Prop} {g g' : Grid α}

theorem painted_nothing (h : ∀ x y, ¬ region x y) : Painted a region g g where
  width := rfl
  inside := fun x y hin => absurd hin (h x y)
  outside := fun _ _ _ => rfl

theorem painted_set (x y : Nat) : Painted a (fun x' y' => x' = x ∧ y' = y) g (g.set x y a) where
  width := g.width_set x y a
  inside := fun x' y' hin => by rw [get?_set, if_pos hin]
  outside := fun x' y' hout => by rw [get?_set, if_neg hout]

theorem Painted.congr (h : Painted a region g g') {region' : Nat → Nat → Prop}
    (hregion : ∀ x y, region' x y ↔ region x y) : Painted a region' g g' where
  width := h.width
  inside := fun x y hin => h.inside x y ((hregion x y).mp hin)
  outside := fun x y hout => h.outside x y (fun hin => hout ((hregion x y).mpr hin))

/-- What is painted twice is painted once. -/
theorem Painted.trans (h : Painted a region g g') {region' : Nat → Nat → Prop} {g'' : Grid α}
    (h' : Painted a region' g' g'') : Painted a (fun x y => region x y ∨ region' x y) g g'' where
  width := by rw [h'.width, h.width]
  inside := by
    intro x y hin
    by_cases hlater : region' x y
    · by_cases hearlier : region x y
      · rw [h'.inside x y hlater, h.inside x y hearlier, Option.map_map]
        rfl
      · rw [h'.inside x y hlater, h.outside x y hearlier]
    · rw [h'.outside x y hlater, h.inside x y (hin.resolve_right hlater)]
  outside := by
    intro x y hout
    rw [h'.outside x y (fun hin => hout (Or.inr hin)), h.outside x y (fun hin => hout (Or.inl hin))]

theorem painted_foldl {ι : Type} {regions : ι → Nat → Nat → Prop} {step : Grid α → ι → Grid α}
    (l : List ι) (hstep : ∀ i ∈ l, ∀ g, Painted a (regions i) g (step g i)) (g : Grid α) :
    Painted a (fun x y => ∃ i ∈ l, regions i x y) g (l.foldl step g) := by
  induction l generalizing g with
  | nil => exact painted_nothing (by simp)
  | cons i l ih =>
    have hfirst := hstep i List.mem_cons_self g
    have hrest := ih (fun j hj => hstep j (List.mem_cons_of_mem _ hj)) (step g i)
    exact (hfirst.trans hrest).congr (by simp)

theorem painted_fill (left top width height : Nat) (g : Grid α) :
    Painted a (fun x y => (left ≤ x ∧ x < left + width) ∧ top ≤ y ∧ y < top + height) g
      (g.fill left top width height a) := by
  have hrow (dy : Nat) (g : Grid α) := painted_foldl (a := a) (List.range width)
    (fun dx _ g => painted_set (g := g) (left + dx) (top + dy)) g
  refine (painted_foldl (List.range height) (fun dy _ g => hrow dy g) g).congr ?_
  intro x y
  simp only [List.mem_range]
  constructor
  · rintro ⟨⟨hleft, hright⟩, htop, hbottom⟩
    exact ⟨y - top, by omega, x - left, by omega, by omega, by omega⟩
  · rintro ⟨dy, hdy, dx, hdx, hx, hy⟩
    omega

/-! ### Rows -/

theorem filterMap_range_getElem? (l : List α) (k n : Nat) :
    ((List.range n).filterMap fun i => l[k + i]?) = (l.drop k).take n := by
  induction n with
  | zero => rfl
  | succ n ih =>
    rw [List.range_succ, List.filterMap_append, ih, List.take_add_one, List.getElem?_drop]
    cases h : l[k + n]? <;> simp [h]

theorem row_eq (g : Grid α) (y : Nat) :
    g.row y = (g.cells.toList.drop (y * g.width)).take g.width := by
  rw [row, ← filterMap_range_getElem?]
  apply List.filterMap_congr
  intro x hx
  rw [g.get?_of_lt (List.mem_range.mp hx), Array.getElem?_toList]

theorem flatten_take_rows (g : Grid α) (k : Nat) :
    ((List.range k).map g.row).flatten = g.cells.toList.take (k * g.width) := by
  induction k with
  | zero => simp
  | succ k ih =>
    rw [List.range_succ, List.map_append, List.flatten_append, ih, Nat.succ_mul, List.take_add,
      List.map_singleton, List.flatten_singleton, row_eq]

theorem flatten_rows (g : Grid α) : g.rows.flatten = g.cells.toList := by
  rw [rows, flatten_take_rows, ← g.size_cells]
  exact List.take_length

theorem length_of_mem_rows {g : Grid α} {r : List α} (h : r ∈ g.rows) : r.length = g.width := by
  obtain ⟨y, hy, rfl⟩ := List.mem_map.mp h
  have hle : (y + 1) * g.width ≤ g.width * g.width :=
    Nat.mul_le_mul_right g.width (List.mem_range.mp hy)
  rw [Nat.succ_mul] at hle
  rw [row_eq, List.length_take, List.length_drop, Array.length_toList, g.size_cells]
  omega

end Pairing.Barcode.Grid
