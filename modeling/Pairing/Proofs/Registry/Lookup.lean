import Pairing.Registry.Basic

/-!
# Looking handles up

A registry is known by what it finds under each handle.  No two entries have one handle, so a registry finds
exactly its entries (`find?_eq_some_iff`), and each operation has one equation: what is found after a
filter (`find?_filter`), an erasure (`find?_erase_self`, `find?_erase_of_ne`), a purge (`find?_purged`) and a
push (`find?_push_self`, `find?_push_of_ne`).

Inserting purges first and then pushes or fails (`insert_error_or_ok`); taking answers by what it finds and
leaves the registry without the handle (`take_of_none`, `take_of_expired`, `take_of_live`, `take_snd`).
-/

namespace Pairing.Registry

variable {S : Type}

/-! ### Entries and handles -/

theorem eq_of_mem_of_nodup {l : List (Entry S)} (hl : (l.map Entry.handle).Nodup) {x y : Entry S}
    (hx : x ∈ l) (hy : y ∈ l) (h : x.handle = y.handle) : x = y := by
  induction l with
  | nil => simp at hx
  | cons a l ih =>
    rw [List.map_cons, List.nodup_cons] at hl
    rcases List.mem_cons.mp hx with hxa | hxl
    · rcases List.mem_cons.mp hy with hya | hyl
      · rw [hxa, hya]
      · rw [hxa] at h
        exact absurd (h ▸ List.mem_map_of_mem hyl) hl.1
    · rcases List.mem_cons.mp hy with hya | hyl
      · rw [hya] at h
        exact absurd (h ▸ List.mem_map_of_mem hxl) hl.1
      · exact ih hl.2 hxl hyl

/-- **A registry finds its entries**, each under its own handle. -/
theorem find?_eq_some_iff {r : Registry S} {h : Handle} {x : Entry S} :
    r.find? h = some x ↔ x ∈ r.entries ∧ x.handle = h := by
  constructor
  · intro hx
    rw [find?] at hx
    have hhandle := List.find?_some hx
    exact ⟨List.mem_of_find?_eq_some hx, beq_iff_eq.mp hhandle⟩
  · rintro ⟨hx, rfl⟩
    cases hy : r.find? x.handle with
    | none => exact absurd (beq_self_eq_true _) (List.find?_eq_none.mp hy x hx)
    | some y =>
      rw [find?] at hy
      have hhandle := List.find?_some hy
      rw [eq_of_mem_of_nodup r.nodup_handles (List.mem_of_find?_eq_some hy) hx
        (beq_iff_eq.mp hhandle)]

theorem mem_handles_iff {r : Registry S} {h : Handle} :
    h ∈ r.handles ↔ ∃ x, r.find? h = some x := by
  rw [handles, List.mem_map]
  constructor
  · rintro ⟨x, hx, hh⟩
    exact ⟨x, find?_eq_some_iff.mpr ⟨hx, hh⟩⟩
  · rintro ⟨x, hx⟩
    exact ⟨x, find?_eq_some_iff.mp hx⟩

theorem Entry.isExpired_eq_true_iff {limits : Limits} {now : Time} {x : Entry S} :
    x.isExpired limits now = true ↔ limits.timeToLive ≤ now - x.createdAt := decide_eq_true_iff

theorem Entry.isExpired_eq_false_iff {limits : Limits} {now : Time} {x : Entry S} :
    x.isExpired limits now = false ↔ now - x.createdAt < limits.timeToLive :=
  decide_eq_false_iff_not.trans Nat.not_le

/-! ### What the operations leave -/

theorem find?_filter (r : Registry S) (keep : Entry S → Bool) (h : Handle) :
    (r.filter keep).find? h = (r.find? h).filter keep := by
  apply Option.ext
  intro x
  rw [find?_eq_some_iff, Option.filter_eq_some_iff, find?_eq_some_iff]
  show x ∈ r.entries.filter keep ∧ x.handle = h ↔ _
  rw [List.mem_filter]
  constructor
  · rintro ⟨⟨hx, hk⟩, hh⟩
    exact ⟨⟨hx, hh⟩, hk⟩
  · rintro ⟨⟨hx, hh⟩, hk⟩
    exact ⟨⟨hx, hk⟩, hh⟩

/-- **A purge keeps the entries whose age has not reached the time limit**, and only those. -/
theorem entries_purged (r : Registry S) (now : Time) :
    (r.purged now).entries = r.entries.filter fun y => now - y.createdAt < r.limits.timeToLive := by
  show r.entries.filter (fun y => !y.isExpired r.limits now) = _
  apply List.filter_congr
  intro y _
  rw [Bool.eq_iff_iff, Bool.not_eq_true', Entry.isExpired_eq_false_iff, decide_eq_true_iff]

theorem find?_purged (r : Registry S) (now : Time) (h : Handle) :
    (r.purged now).find? h = (r.find? h).filter fun x => !x.isExpired r.limits now :=
  find?_filter r _ h

section Purged

variable {r : Registry S} {now : Time} {h : Handle} {x : Entry S}

theorem find?_purged_of_none (hr : r.find? h = none) : (r.purged now).find? h = none := by
  rw [find?_purged, hr]
  rfl

theorem find?_purged_of_expired (hr : r.find? h = some x) (hx : x.isExpired r.limits now = true) :
    (r.purged now).find? h = none := by
  rw [find?_purged, hr, Option.filter_some, hx]
  rfl

theorem find?_purged_of_live (hr : r.find? h = some x) (hx : x.isExpired r.limits now = false) :
    (r.purged now).find? h = some x := by
  rw [find?_purged, hr, Option.filter_some, hx]
  rfl

end Purged

theorem find?_erase_self (r : Registry S) (h : Handle) : (r.erase h).find? h = none := by
  rw [erase, find?_filter]
  cases hx : r.find? h with
  | none => rfl
  | some x =>
    have hh := (find?_eq_some_iff.mp hx).2
    rw [Option.filter_some, hh, bne_self_eq_false, if_neg Bool.false_ne_true]

theorem find?_erase_of_ne (r : Registry S) {h k : Handle} (hk : k ≠ h) :
    (r.erase h).find? k = r.find? k := by
  rw [erase, find?_filter]
  cases hx : r.find? k with
  | none => rfl
  | some x =>
    have hh := (find?_eq_some_iff.mp hx).2
    rw [Option.filter_some, hh, if_pos (bne_iff_ne.mpr hk)]

theorem erase_of_find?_eq_none {r : Registry S} {h : Handle} (hr : r.find? h = none) :
    r.erase h = r := by
  have hkeep : r.entries.filter (fun x => x.handle != h) = r.entries := by
    rw [List.filter_eq_self]
    intro x hx
    have hxh : x.handle ≠ h := by
      intro hxh
      cases hr.symm.trans (find?_eq_some_iff.mpr ⟨hx, hxh⟩)
    exact bne_iff_ne.mpr hxh
  cases r
  simp only [erase, filter, mk.injEq, true_and]
  exact hkeep

theorem find?_push_self (r : Registry S) (x : Entry S) (hx : x.handle ∉ r.handles) :
    (r.push x hx).find? x.handle = some x :=
  find?_eq_some_iff.mpr ⟨List.mem_append_right _ (List.mem_singleton.mpr rfl), rfl⟩

theorem find?_push_of_ne (r : Registry S) {x : Entry S} (hx : x.handle ∉ r.handles) {h : Handle}
    (hh : x.handle ≠ h) : (r.push x hx).find? h = r.find? h := by
  apply Option.ext
  intro y
  rw [find?_eq_some_iff, find?_eq_some_iff]
  show y ∈ r.entries ++ [x] ∧ y.handle = h ↔ _
  rw [List.mem_append, List.mem_singleton]
  constructor
  · rintro ⟨hy | rfl, hyh⟩
    · exact ⟨hy, hyh⟩
    · exact absurd hyh hh
  · rintro ⟨hy, hyh⟩
    exact ⟨Or.inl hy, hyh⟩

/-! ### Inserting and taking -/

variable (r : Registry S) (session : S) (now : Time) (e : Entropy)

/-- **Inserting purges** and then either fails or pushes the session under a handle that was free. -/
theorem insert_error_or_ok :
    (∃ err, (r.insert session now e).1 = .error err ∧
      (r.insert session now e).2.1 = r.purged now) ∨
    ∃ (h : Handle) (hfree : h ∉ (r.purged now).handles), (r.insert session now e).1 = .ok h ∧
      (r.insert session now e).2.1 = (r.purged now).push ⟨h, session, now⟩ hfree := by
  by_cases hfull : (r.purged now).limits.maxSessions ≤ (r.purged now).size
  · left
    refine ⟨.registryFull r.limits.maxSessions, ?_, ?_⟩
    · rw [insert, if_pos hfull]
      rfl
    · rw [insert, if_pos hfull]
  · rcases hd : freshHandle (r.purged now).handles e with ⟨err | ⟨h, hfree⟩, e'⟩
    · left
      refine ⟨.pairing err, ?_, ?_⟩
      · rw [insert, if_neg hfull, hd]
      · rw [insert, if_neg hfull, hd]
    · right
      refine ⟨h, hfree, ?_, ?_⟩
      · rw [insert, if_neg hfull, hd]
      · rw [insert, if_neg hfull, hd]

/-- The first candidate is taken if it is free. -/
theorem freshHandle_of_not_mem {taken : List Handle} {e : Entropy} (hs : e.used + 16 ≤ e.supply)
    (hfree : Handle.ofBlock (e.slice e.used 16) ∉ taken) :
    freshHandle taken e =
      (.ok ⟨Handle.ofBlock (e.slice e.used 16), hfree⟩, { e with used := e.used + 16 }) := by
  rw [freshHandle]
  split
  · rename_i err e' hread
    rw [Entropy.read_ok hs] at hread
    cases hread
  · rename_i b e' hread
    rw [Entropy.read_ok hs] at hread
    cases hread
    rw [dif_neg hfree]

variable {r session now e} {h : Handle} {x : Entry S}

theorem not_mem_handles_of_insert (hi : (r.insert session now e).1 = .ok h) :
    h ∉ (r.purged now).handles := by
  rcases r.insert_error_or_ok session now e with ⟨err, herr, -⟩ | ⟨k, hfree, hk, -⟩
  · cases hi.symm.trans herr
  · cases hi.symm.trans hk
    exact hfree

/-- The handle that was given out finds the session. -/
theorem find?_insert_of_ok (hi : (r.insert session now e).1 = .ok h) :
    (r.insert session now e).2.1.find? h = some ⟨h, session, now⟩ := by
  rcases r.insert_error_or_ok session now e with ⟨err, herr, -⟩ | ⟨k, hfree, hk, hr⟩
  · cases hi.symm.trans herr
  · cases hi.symm.trans hk
    rw [hr]
    exact find?_push_self _ ⟨h, session, now⟩ hfree

/-- Under any other handle an insertion does what a purge does, whether or not it succeeds. -/
theorem find?_insert_of_ne (hi : (r.insert session now e).1 ≠ .ok h) :
    (r.insert session now e).2.1.find? h = (r.purged now).find? h := by
  rcases r.insert_error_or_ok session now e with ⟨err, -, hr⟩ | ⟨k, hfree, hk, hr⟩
  · rw [hr]
  · have hkh : k ≠ h := by
      intro hkh
      rw [hkh] at hk
      exact hi hk
    rw [hr]
    exact find?_push_of_ne _ hfree hkh

theorem limits_insert : (r.insert session now e).2.1.limits = r.limits := by
  rcases r.insert_error_or_ok session now e with ⟨err, -, hr⟩ | ⟨k, hfree, -, hr⟩
  · rw [hr]
    rfl
  · rw [hr]
    rfl

theorem take_of_none (hr : r.find? h = none) : r.take h now = (.error (.unknownSession h), r) := by
  rw [take, hr]

theorem take_of_expired (hr : r.find? h = some x) (hx : x.isExpired r.limits now = true) :
    r.take h now = (.error (.sessionExpired h), r.erase h) := by
  rw [take, hr]
  exact if_pos hx

theorem take_of_live (hr : r.find? h = some x) (hx : x.isExpired r.limits now = false) :
    r.take h now = (.ok x.session, r.erase h) := by
  rw [take, hr]
  simp only [hx, Bool.false_eq_true, if_false]

theorem take_snd (r : Registry S) (h : Handle) (now : Time) : (r.take h now).2 = r.erase h := by
  cases hr : r.find? h with
  | none => rw [take_of_none hr, erase_of_find?_eq_none hr]
  | some x =>
    cases hx : x.isExpired r.limits now with
    | true => rw [take_of_expired hr hx]
    | false => rw [take_of_live hr hx]

end Pairing.Registry
