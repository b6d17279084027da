/-!
# Square grids

A grid keeps one value for each place. Reading outside of it gives nothing and writing outside of it
changes nothing.
-/

namespace Pairing.Barcode

structure Grid (α : Type) where
  width : Nat
  cells : Array α
  size_cells : cells.size = width * width

namespace Grid

variable {α : Type}

def ofFn (width : Nat) (f : Nat → Nat → α) : Grid α where
  width := width
  cells := Array.ofFn fun i : Fin (width * width) => f (i.1 % width) (i.1 / width)
  size_cells := Array.size_ofFn

def replicate (width : Nat) (a : α) : Grid α where
  width := width
  cells := Array.replicate (width * width) a
  size_cells := Array.size_replicate

def get? (g : Grid α) (x y : Nat) : Option α :=
  if x < g.width then g.cells[y * g.width + x]? else none

def set (g : Grid α) (x y : Nat) (a : α) : Grid α :=
  if x < g.width then
    { g with
      cells := g.cells.setIfInBounds (y * g.width + x) a
      size_cells := by rw [Array.size_setIfInBounds]; exact g.size_cells }
  else g

def row (g : Grid α) (y : Nat) : List α := (List.range g.width).filterMap (g.get? · y)

def column (g : Grid α) (x : Nat) : List α := (List.range g.width).filterMap (g.get? x ·)

def rows (g : Grid α) : List (List α) := (List.range g.width).map g.row

def columns (g : Grid α) : List (List α) := (List.range g.width).map g.column

/-- Writes one value to all places of a rectangle. -/
def fill (g : Grid α) (left top width height : Nat) (a : α) : Grid α :=
  (List.range height).foldl (fun g dy =>
    (List.range width).foldl (fun g dx => g.set (left + dx) (top + dy) a) g) g

end Grid

end Pairing.Barcode
