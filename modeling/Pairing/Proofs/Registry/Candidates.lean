import Pairing.Proofs.Registry.Lookup

/-!
# Candidates for a handle

A registry draws handles 16 bytes at a time until one is free.  `drawHandle` is what comes of that.  It goes on
after a candidate that is taken, and all else follows by induction along the candidates (`drawing_induction`).
`drawHandle_eq` reads the outcome off the source: the handle is the first free one among the whole blocks that
are left (`Entropy.blocksLeft`), and what has been read are the blocks up to that one (`tried`), or all of them
if none is free.

With it an insertion has three outcomes, each under the condition that decides it: `insert_of_full`,
`insert_of_unavailable`, `insert_of_drawn`; there are no others (`insert_cases`).  All that an insertion asks
of the registry is what a purge leaves (`insert_congr`).
-/

namespace Pairing

namespace Entropy

/-- The positions of the whole blocks of `n` bytes that are left, in their order. -/
def blocksLeft (n : Nat) (e : Entropy) : List Nat :=
  (List.range (e.remaining / n)).map fun i => e.used + n * i

theorem blocksLeft_of_short {n : Nat} (hn : 0 < n) {e : Entropy} (h : ¬ e.used + n ≤ e.supply) :
    e.blocksLeft n = [] := by
  have hnone : e.remaining / n = 0 := by
    apply Nat.div_eq_of_lt
    rw [remaining]
    omega
  rw [blocksLeft, hnone]
  rfl

theorem blocksLeft_of_supply {n : Nat} (hn : 0 < n) {e : Entropy} (h : e.used + n ≤ e.supply) :
    e.blocksLeft n = e.used :: ({ e with used := e.used + n } : Entropy).blocksLeft n := by
  have hcount : e.remaining / n =
      ({ e with used := e.used + n } : Entropy).remaining / n + 1 := by
    have hleft : e.remaining = ({ e with used := e.used + n } : Entropy).remaining + n := by
      simp only [remaining]
      omega
    rw [hleft, Nat.add_div_right _ hn]
  rw [blocksLeft, hcount, List.range_succ_eq_map, List.map_cons, List.map_map, blocksLeft]
  refine congrArg (List.cons _) (List.map_congr_left ?_)
  intro i _
  show e.used + n * (i + 1) = e.used + n + n * i
  rw [Nat.mul_succ, Nat.add_assoc, Nat.add_comm n]

end Entropy

namespace Registry

/-! ### Drawing a handle -/

/-- The handle that stands at a position of a source: 16 bytes, highest first. -/
def candidate (e : Entropy) (p : Nat) : Handle where
  value := Bytes.ofBigEndian ((List.range 16).map fun i => e.byteAt (p + i))
  value_lt := (Handle.ofBlock (e.slice p 16)).value_lt

/-- What comes of drawing handles until one is free. -/
def drawHandle (taken : List Handle) (e : Entropy) : Except Pairing.Error Handle × Entropy :=
  ((freshHandle taken e).1.map Subtype.val, (freshHandle taken e).2)

/-- The positions at which handles are drawn: up to the first that is free, or as far as the source
goes. -/
def tried (taken : List Handle) (e : Entropy) : List Nat :=
  (e.blocksLeft 16).take (((e.blocksLeft 16).findIdx fun p => candidate e p ∉ taken) + 1)

section Drawing

variable {taken : List Handle} {e : Entropy}

theorem drawHandle_of_short (h : ¬ e.used + 16 ≤ e.supply) :
    drawHandle taken e = (.error (.randomness "entropy exhausted"), e) := by
  have hd : freshHandle taken e = (.error (.randomness "entropy exhausted"), e) := by
    rw [freshHandle]
    split
    · rename_i err e' hread
      rw [Entropy.read_error h] at hread
      cases hread
      rfl
    · rename_i b e' hread
      rw [Entropy.read_error h] at hread
      cases hread
  rw [drawHandle, hd]
  rfl

theorem drawHandle_of_free (h : e.used + 16 ≤ e.supply) (hfree : candidate e e.used ∉ taken) :
    drawHandle taken e = (.ok (candidate e e.used), { e with used := e.used + 16 }) := by
  rw [drawHandle, freshHandle_of_not_mem h hfree]
  rfl

/-- A candidate that is taken is dropped for the next one. -/
theorem drawHandle_of_taken (h : e.used + 16 ≤ e.supply) (htaken : candidate e e.used ∈ taken) :
    drawHandle taken e = drawHandle taken { e with used := e.used + 16 } := by
  have hd : freshHandle taken e = freshHandle taken { e with used := e.used + 16 } := by
    rw [freshHandle]
    split
    · rename_i err e' hread
      rw [Entropy.read_ok h] at hread
      cases hread
    · rename_i b e' hread
      rw [Entropy.read_ok h] at hread
      cases hread
      exact dif_pos htaken
  rw [drawHandle, hd]
  rfl

theorem tried_of_short (h : ¬ e.used + 16 ≤ e.supply) : tried taken e = [] := by
  rw [tried, Entropy.blocksLeft_of_short (by decide) h]
  rfl

theorem tried_of_free (h : e.used + 16 ≤ e.supply) (hfree : candidate e e.used ∉ taken) :
    tried taken e = [e.used] := by
  rw [tried, Entropy.blocksLeft_of_supply (by decide) h, List.findIdx_cons, decide_eq_true hfree]
  rfl

theorem tried_of_taken (h : e.used + 16 ≤ e.supply) (htaken : candidate e e.used ∈ taken) :
    tried taken e = e.used :: tried taken { e with used := e.used + 16 } := by
  rw [tried, Entropy.blocksLeft_of_supply (by decide) h, List.findIdx_cons,
    decide_eq_false (not_not_intro htaken)]
  rfl

/-- Drawing goes on after a candidate that is taken; it ends at one that is free, or with the source. -/
theorem drawing_induction (taken : List Handle) {motive : Entropy → Prop}
    (short : ∀ e, ¬ e.used + 16 ≤ e.supply → motive e)
    (free : ∀ e, e.used + 16 ≤ e.supply → candidate e e.used ∉ taken → motive e)
    (again : ∀ e, e.used + 16 ≤ e.supply → candidate e e.used ∈ taken →
      motive { e with used := e.used + 16 } → motive e) (e : Entropy) : motive e := by
  -- along the source, which gets shorter with every candidate
  induction hn : e.remaining using Nat.strongRecOn generalizing e with
  | ind n ih =>
    by_cases hs : e.used + 16 ≤ e.supply
    · by_cases htaken : candidate e e.used ∈ taken
      · have hlt : ({ e with used := e.used + 16 } : Entropy).remaining < n := by
          rw [← hn]
          exact Entropy.remaining_read_lt (by decide) (Entropy.read_ok hs)
        exact again e hs htaken (ih _ hlt _ rfl)
      · exact free e hs htaken
    · exact short e hs

/-- **The first free block is the handle**, and what has been read are the blocks up to it. -/
theorem drawHandle_eq (taken : List Handle) (e : Entropy) :
    drawHandle taken e =
      (match (e.blocksLeft 16).find? fun p => candidate e p ∉ taken with
        | some p => .ok (candidate e p)
        | none => .error (.randomness "entropy exhausted"),
      { e with used := e.used + 16 * (tried taken e).length }) := by
  induction e using drawing_induction taken with
  | short e hs =>
    rw [drawHandle_of_short hs, tried_of_short hs, Entropy.blocksLeft_of_short (by decide) hs]
    rfl
  | free e hs hfree =>
    rw [Entropy.blocksLeft_of_supply (by decide) hs, List.find?_cons, drawHandle_of_free hs hfree,
      tried_of_free hs hfree, decide_eq_true hfree]
    rfl
  | again e hs htaken ih =>
    rw [Entropy.blocksLeft_of_supply (by decide) hs, List.find?_cons, drawHandle_of_taken hs htaken,
      tried_of_taken hs htaken, ih, decide_eq_false (not_not_intro htaken), List.length_cons,
      Nat.mul_succ, Nat.add_comm (16 * _), ← Nat.add_assoc]
    rfl

/-- All candidates but the handle are taken. -/
theorem taken_or_drawn {p : Nat} (hp : p ∈ tried taken e) :
    candidate e p ∈ taken ∨ (drawHandle taken e).1 = .ok (candidate e p) := by
  induction e using drawing_induction taken with
  | short e hs =>
    rw [tried_of_short hs] at hp
    cases hp
  | free e hs hfree =>
    rw [tried_of_free hs hfree] at hp
    obtain rfl := List.mem_singleton.mp hp
    rw [drawHandle_of_free hs hfree]
    exact Or.inr rfl
  | again e hs htaken ih =>
    rw [tried_of_taken hs htaken] at hp
    rcases List.mem_cons.mp hp with rfl | hp
    · exact Or.inl htaken
    · rw [drawHandle_of_taken hs htaken]
      exact ih hp

/-- The handle is the last candidate. -/
theorem exists_tried_eq_of_drawn {h : Handle} (hd : (drawHandle taken e).1 = .ok h) :
    ∃ ps p, tried taken e = ps ++ [p] ∧ h = candidate e p := by
  induction e using drawing_induction taken with
  | short e hs =>
    rw [drawHandle_of_short hs] at hd
    cases hd
  | free e hs hfree =>
    rw [drawHandle_of_free hs hfree] at hd
    exact ⟨[], e.used, tried_of_free hs hfree, (Except.ok.inj hd).symm⟩
  | again e hs htaken ih =>
    rw [drawHandle_of_taken hs htaken] at hd
    obtain ⟨ps, p, htried, rfl⟩ := ih hd
    refine ⟨e.used :: ps, p, ?_, rfl⟩
    rw [tried_of_taken hs htaken, htried]
    rfl

end Drawing

/-! ### The outcomes of an insertion -/

section Inserting

variable {S : Type} {r : Registry S} {x : S} {now : Time} {e e' : Entropy}

theorem insert_of_full (hfull : r.limits.maxSessions ≤ (r.purged now).size) :
    r.insert x now e =
      (.error (.registryFull r.limits.maxSessions), r.purged now, e) := if_pos hfull

section Room

variable (hroom : ¬ r.limits.maxSessions ≤ (r.purged now).size)
include hroom

theorem insert_of_unavailable {err : Pairing.Error}
    (hd : drawHandle (r.purged now).handles e = (.error err, e')) :
    r.insert x now e = (.error (.pairing err), r.purged now, e') := by
  have hfull : ¬ (r.purged now).limits.maxSessions ≤ (r.purged now).size := hroom
  rw [insert, if_neg hfull]
  rw [drawHandle] at hd
  rcases hfresh : freshHandle (r.purged now).handles e with ⟨err' | h, e₁⟩
  · rw [hfresh] at hd
    cases hd
    rfl
  · rw [hfresh] at hd
    cases hd

theorem insert_of_drawn {h : Handle} (hd : drawHandle (r.purged now).handles e = (.ok h, e')) :
    ∃ hfree : h ∉ (r.purged now).handles, r.insert x now e =
      (.ok h, (r.purged now).push ⟨h, x, now⟩ hfree, e') := by
  have hfull : ¬ (r.purged now).limits.maxSessions ≤ (r.purged now).size := hroom
  rw [insert, if_neg hfull]
  rw [drawHandle] at hd
  rcases hfresh : freshHandle (r.purged now).handles e with ⟨err' | ⟨k, hk⟩, e₁⟩
  · rw [hfresh] at hd
    cases hd
  · rw [hfresh] at hd
    cases hd
    exact ⟨hk, rfl⟩

end Room

variable (r x now e) in
/-- All that an insertion can come to. -/
theorem insert_cases :
    (r.limits.maxSessions ≤ (r.purged now).size ∧
      r.insert x now e = (.error (.registryFull r.limits.maxSessions), r.purged now, e)) ∨
    ((r.purged now).size < r.limits.maxSessions ∧ ∃ err e',
      drawHandle (r.purged now).handles e = (.error err, e') ∧
      r.insert x now e = (.error (.pairing err), r.purged now, e')) ∨
    (r.purged now).size < r.limits.maxSessions ∧ ∃ (h : Handle) (e' : Entropy)
      (hfree : h ∉ (r.purged now).handles), drawHandle (r.purged now).handles e = (.ok h, e') ∧
      r.insert x now e = (.ok h, (r.purged now).push ⟨h, x, now⟩ hfree, e') := by
  by_cases hfull : r.limits.maxSessions ≤ (r.purged now).size
  · exact Or.inl ⟨hfull, insert_of_full hfull⟩
  · refine Or.inr ?_
    rcases hd : drawHandle (r.purged now).handles e with ⟨err | h, e'⟩
    · exact Or.inl ⟨Nat.not_le.mp hfull, err, e', rfl, insert_of_unavailable hfull hd⟩
    · obtain ⟨hfree, hr⟩ := insert_of_drawn (x := x) hfull hd
      exact Or.inr ⟨Nat.not_le.mp hfull, h, e', hfree, rfl, hr⟩

/-- **An insertion sees only what a purge leaves.** -/
theorem insert_congr {r' : Registry S} (h : r'.purged now = r.purged now) :
    r'.insert x now e = r.insert x now e := by
  have hlimits : (r'.purged now).limits = (r.purged now).limits := by rw [h]
  change r'.limits = r.limits at hlimits
  rcases r.insert_cases x now e with ⟨hfull, hr⟩ | ⟨hroom, err, e', hd, hr⟩ |
    ⟨hroom, k, e', hfree, hd, hr⟩
  · rw [hr, insert_of_full (by rw [h, hlimits]; exact hfull), h, hlimits]
  · rw [← h, ← hlimits] at hroom
    rw [hr, insert_of_unavailable (Nat.not_le.mpr hroom) (h ▸ hd), h]
  · rw [← h, ← hlimits] at hroom
    obtain ⟨hfree', hr'⟩ := insert_of_drawn (x := x) (Nat.not_le.mpr hroom) (h ▸ hd)
    rw [hr, hr']
    simp only [h]

end Inserting

end Registry

end Pairing
