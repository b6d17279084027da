import Pairing.Error

/-!
# Sources of randomness

A source is a fixed sequence of bytes of which the first `supply` exist; reading moves through it and
never back. A read of `n` bytes takes the next `n`, or fails and takes nothing.
-/

namespace Pairing

structure Entropy where
  byteAt : Nat → UInt8
  supply : Nat
  used : Nat := 0

namespace Entropy

/-- The source that holds exactly these bytes. -/
def ofBytes (b : Bytes) : Entropy where
  byteAt i := b.getD i 0
  supply := b.length

/-- The `n` bytes from position `i` on. -/
def slice (e : Entropy) (i n : Nat) : Block n :=
  ⟨(List.range n).map fun j => e.byteAt (i + j), by simp⟩

def read (n : Nat) (e : Entropy) : Except Error (Block n) × Entropy :=
  if e.used + n ≤ e.supply then (.ok (e.slice e.used n), { e with used := e.used + n })
  else (.error (.randomness "entropy exhausted"), e)

/-- How many bytes are left. -/
def remaining (e : Entropy) : Nat := e.supply - e.used

/-- What is left of a source gives way to another source; what was read stays read. -/
def continueWith (e next : Entropy) : Entropy where
  byteAt i := if i < e.used then e.byteAt i else next.byteAt (next.used + (i - e.used))
  supply := e.used + (next.supply - next.used)
  used := e.used

theorem read_ok {n : Nat} {e : Entropy} (h : e.used + n ≤ e.supply) :
    e.read n = (.ok (e.slice e.used n), { e with used := e.used + n }) := if_pos h

theorem read_error {n : Nat} {e : Entropy} (h : ¬ e.used + n ≤ e.supply) :
    e.read n = (.error (.randomness "entropy exhausted"), e) := if_neg h

theorem remaining_read_lt {n : Nat} (hn : 0 < n) {e e' : Entropy} {b : Block n}
    (h : e.read n = (.ok b, e')) : e'.remaining < e.remaining := by
  by_cases hs : e.used + n ≤ e.supply
  · rw [read_ok hs] at h
    cases h
    simp only [remaining]
    omega
  · rw [read_error hs] at h
    cases h

end Entropy

end Pairing
