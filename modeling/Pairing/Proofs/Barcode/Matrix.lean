import Pairing.Barcode.Matrix

/-!
# The size of a barcode

A text has a matrix exactly if there is a version that holds it, and the matrix is as wide as that version says
(`exists_ofText?_eq`): masks are laid over the places of the version, and the plainest matrix is one of those
to choose from (`plainest_mem`).
-/

namespace Pairing.Barcode

theorem Version.mem_all_iff {v : Nat} : v ∈ Version.all ↔ 1 ≤ v ∧ v ≤ 40 := by
  rw [Version.all, List.mem_map]
  constructor
  · rintro ⟨n, hn, rfl⟩
    have hlt := List.mem_range.mp hn
    omega
  · rintro ⟨hpos, hle⟩
    exact ⟨v - 1, List.mem_range.mpr (by omega), by omega⟩

theorem mem_all_of_fit? {level : Level} {text : Bytes} {v : Nat} {bits : List Bool}
    (h : fit? level text = some (v, bits)) : v ∈ Version.all := by
  obtain ⟨last, -, hlast⟩ := List.exists_of_findSome?_eq_some h
  dsimp only at hlast
  split at hlast
  · obtain ⟨v', hfind, hpair⟩ := Option.map_eq_some_iff.mp hlast
    cases hpair
    exact List.mem_of_find?_eq_some hfind
  · cases hlast

namespace Matrix

/-- A walk through a list whose state holds, at each step, what it held before or what it meets. -/
theorem foldl_mem {α β : Type} (held : β → α) {step : β → α → β}
    (hstep : ∀ b a, held (step b a) = held b ∨ held (step b a) = a) (b : β) (l : List α) :
    held (l.foldl step b) ∈ held b :: l := by
  induction l generalizing b with
  | nil => exact List.mem_cons_self
  | cons a l ih =>
    rw [List.foldl_cons]
    rcases List.mem_cons.mp (ih (step b a)) with heq | hmem
    · rw [heq]
      rcases hstep b a with hkept | hmet
      · rw [hkept]
        exact List.mem_cons_self
      · rw [hmet]
        exact List.mem_cons_of_mem _ List.mem_cons_self
    · exact List.mem_cons_of_mem _ (List.mem_cons_of_mem _ hmem)

theorem plainest_mem (first : Matrix) (others : List Matrix) :
    plainest first others ∈ first :: others := by
  rw [plainest]
  refine foldl_mem Prod.fst ?_ (first, penalty first) others
  intro best m
  dsimp only
  split
  · exact Or.inr rfl
  · exact Or.inl rfl

theorem ofText?_eq_none {level : Level} {text : Bytes} (h : fit? level text = none) :
    ofText? level text = none := by
  rw [ofText?, h, Option.map_none]

/-- **A text that fits has a matrix**, of the width of its version. -/
theorem exists_ofText?_eq {level : Level} {text : Bytes} {v : Nat} {bits : List Bool}
    (h : fit? level text = some (v, bits)) :
    ∃ m, ofText? level text = some m ∧ m.width = Version.width v := by
  rw [ofText?, h, Option.map_some]
  refine ⟨_, rfl, ?_⟩
  dsimp only
  rcases List.mem_cons.mp (plainest_mem _ _) with heq | hmem
  · rw [heq]
    rfl
  · obtain ⟨mask, -, hmask⟩ := List.mem_map.mp hmem
    rw [← hmask]
    rfl

end Matrix

end Pairing.Barcode
