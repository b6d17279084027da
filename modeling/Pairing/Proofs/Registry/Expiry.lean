import Mathlib.Data.List.Forall2
import Pairing.Proofs.Registry.Candidates

/-!
# Late and prompt expiry

A registry drops its expired sessions late: with the next insertion, when it is asked for one of them, or
when it is purged.  Nobody can use that.  A `ClockedRegistry` is a registry at work, a `Call` is what can
happen to it, and a `Reply` is what a caller gets.

* Of two registries that differ in expired entries only, one with fewer of them (`Sparser`) gives replies
  that agree with those of the other (`reply?_agrees`), and each call leaves them so (`sparser_after`).  A
  purge makes a registry sparser (`sparser_purge`), so purges change no reply (`replies_agree`).
* A `PromptStore` keeps ages in place of a clock and drops a session at the instant at which its age reaches
  the time limit.  It holds what is alive in the registry (`Simulates`), and each call keeps that
  (`simulates_after`).
-/

namespace Pairing

namespace Registry

variable {S : Type} {r : Registry S} {now : Time}

/-! ### Purges -/

theorem ext_entries {r' : Registry S} (hlimits : r.limits = r'.limits)
    (hentries : r.entries = r'.entries) : r = r' := by
  obtain ⟨limits, entries, hnodup⟩ := r
  cases hlimits
  cases hentries
  rfl

theorem Entry.isExpired_mono {limits : Limits} {later : Time} {x : Entry S} (h : now ≤ later)
    (hx : x.isExpired limits now = true) : x.isExpired limits later = true := by
  rw [Entry.isExpired_eq_true_iff] at hx ⊢
  exact Nat.le_trans hx (Nat.sub_le_sub_right h _)

theorem purged_purged (r : Registry S) {later : Time} (h : now ≤ later) :
    (r.purged now).purged later = r.purged later := by
  refine ext_entries rfl (?_ : (r.entries.filter _).filter _ = r.entries.filter _)
  rw [List.filter_filter]
  apply List.filter_congr
  intro x _
  -- what has expired by now has expired later, too
  cases hx : x.isExpired r.limits now with
  | false =>
    rw [Bool.not_false, Bool.and_true]
    rfl
  | true =>
    rw [Bool.not_true, Bool.and_false, Entry.isExpired_mono h hx]
    rfl

theorem purged_erase (r : Registry S) (h : Handle) :
    (r.erase h).purged now = (r.purged now).erase h := by
  refine ext_entries rfl (?_ : (r.entries.filter _).filter _ = (r.entries.filter _).filter _)
  rw [List.filter_filter, List.filter_filter]
  apply List.filter_congr
  intro x _
  exact Bool.and_comm _ _

/-- A session is handed out if a purge would leave it. -/
theorem toOption_take (r : Registry S) (h : Handle) (now : Time) :
    (r.take h now).1.toOption = ((r.purged now).find? h).map Entry.session := by
  cases hr : r.find? h with
  | none =>
    rw [take_of_none hr, find?_purged_of_none hr]
    rfl
  | some x =>
    cases hx : x.isExpired r.limits now with
    | true =>
      rw [take_of_expired hr hx, find?_purged_of_expired hr hx]
      rfl
    | false =>
      rw [take_of_live hr hx, find?_purged_of_live hr hx]
      rfl

/-! ### A registry at work -/

/-- What can happen to a registry. -/
inductive Call (S : Type)
  | insert (x : S)
  | take (h : Handle)
  | advance (elapsed : Time)
  | purge

def Call.isPurge : Call S → Bool
  | .purge => true
  | _ => false

def withoutPurges (calls : List (Call S)) : List (Call S) := calls.filter fun c => !c.isPurge

/-- What a caller gets: a handle and what was drawn for it, or a session. -/
inductive Reply (S : Type)
  | inserted (answer : Except Service.Error Handle) (drawn : Bytes)
  | taken (answer : Except Service.Error S)

/-- The second reply serves a caller as well as the first: it is the same, or neither gives a session and at
most the reason differs, where what had expired is unknown. -/
inductive Reply.AgreesWith : Reply S → Reply S → Prop
  | inserted (answer : Except Service.Error Handle) (drawn : Bytes) :
      AgreesWith (.inserted answer drawn) (.inserted answer drawn)
  | found (x : S) : AgreesWith (.taken (.ok x)) (.taken (.ok x))
  | refused {err err' : Service.Error} (kind : err.kind = .invalidState)
      (kind' : err'.kind = .invalidState)
      (cause : err' = err ∨ ∃ h, err = .sessionExpired h ∧ err' = .unknownSession h) :
      AgreesWith (.taken (.error err)) (.taken (.error err'))

end Registry

open Registry

/-- A registry with the clock that it goes by and the source of its handles. -/
structure ClockedRegistry (S : Type) where
  registry : Registry S
  now : Time
  entropy : Entropy

namespace ClockedRegistry

variable {S : Type}

variable (S) in
def new (limits : Limits) (now : Time) (e : Entropy) : ClockedRegistry S := ⟨.new S limits, now, e⟩

def after (m : ClockedRegistry S) : Call S → ClockedRegistry S
  | .insert x => ⟨(m.registry.insert x m.now m.entropy).2.1, m.now,
      (m.registry.insert x m.now m.entropy).2.2⟩
  | .take h => { m with registry := (m.registry.take h m.now).2 }
  | .advance elapsed => { m with now := m.now + elapsed }
  | .purge => { m with registry := (m.registry.purge m.now).2 }

def reply? (m : ClockedRegistry S) : Call S → Option (Reply S)
  | .insert x =>
    let left := (m.registry.insert x m.now m.entropy).2.2
    some (.inserted (m.registry.insert x m.now m.entropy).1
      (m.entropy.slice m.entropy.used (left.used - m.entropy.used)).1)
  | .take h => some (.taken (m.registry.take h m.now).1)
  | .advance _ => none
  | .purge => none

def run (m : ClockedRegistry S) (calls : List (Call S)) : ClockedRegistry S := calls.foldl after m

/-- The replies to the insertions and the takings among some calls, in their order. -/
def replies (m : ClockedRegistry S) : List (Call S) → List (Reply S)
  | [] => []
  | c :: calls => (m.reply? c).toList ++ (m.after c).replies calls

/-! ### Purges change no reply -/

/-- The registry `m'` is at the same point as `m`, and lacks at most expired entries of it. -/
structure Sparser (m m' : ClockedRegistry S) : Prop where
  now : m'.now = m.now
  entropy : m'.entropy = m.entropy
  purged : m'.registry.purged m.now = m.registry.purged m.now
  find? : ∀ h x, m'.registry.find? h = some x → m.registry.find? h = some x

theorem sparser_refl (m : ClockedRegistry S) : m.Sparser m := ⟨rfl, rfl, rfl, fun _ _ h => h⟩

variable {m m' : ClockedRegistry S}

theorem sparser_purge (h : m.Sparser m') : m.Sparser (m'.after .purge) where
  now := h.now
  entropy := h.entropy
  purged := by
    show (m'.registry.purged m'.now).purged m.now = _
    rw [h.now, purged_purged _ (Nat.le_refl _), h.purged]
  find? k x hx := by
    apply h.find?
    have hfilter : (m'.registry.purged m'.now).find? k = some x := hx
    rw [find?_purged, Option.filter_eq_some_iff] at hfilter
    exact hfilter.1

theorem sparser_take (h : m.Sparser m') (k : Handle) :
    (m.after (.take k)).Sparser (m'.after (.take k)) where
  now := h.now
  entropy := h.entropy
  purged := by
    show (m'.registry.take k m'.now).2.purged m.now = (m.registry.take k m.now).2.purged m.now
    rw [take_snd, take_snd, purged_erase, purged_erase, h.purged]
  find? k' x hx := by
    have hleft : (m'.registry.take k m'.now).2.find? k' = some x := hx
    show (m.registry.take k m.now).2.find? k' = some x
    rw [take_snd] at hleft ⊢
    by_cases hk : k' = k
    · rw [hk, find?_erase_self] at hleft
      cases hleft
    · rw [find?_erase_of_ne _ hk] at hleft ⊢
      exact h.find? k' x hleft

theorem insert_eq (h : m.Sparser m') (x : S) :
    m'.registry.insert x m'.now m'.entropy = m.registry.insert x m.now m.entropy := by
  rw [h.now, h.entropy, insert_congr h.purged]

/-- **Each call keeps two such registries together**; an insertion makes them one. -/
theorem sparser_after (h : m.Sparser m') (c : Call S) : (m.after c).Sparser (m'.after c) := by
  cases c with
  | insert x =>
    have hsame : m'.after (.insert x) = m.after (.insert x) := by
      rw [after, after, insert_eq h, h.now]
    rw [hsame]
    exact sparser_refl _
  | take k => exact sparser_take h k
  | advance elapsed =>
    refine ⟨congrArg (· + elapsed) h.now, h.entropy, ?_, h.find?⟩
    have hle : m.now ≤ m.now + elapsed := Nat.le_add_right _ _
    show m'.registry.purged (m.now + elapsed) = m.registry.purged (m.now + elapsed)
    rw [← purged_purged m'.registry hle, h.purged, purged_purged _ hle]
  | purge =>
    refine ⟨h.now, h.entropy, ?_, ?_⟩
    · show (m'.registry.purged m'.now).purged m.now = (m.registry.purged m.now).purged m.now
      rw [h.now, h.purged]
    · intro k x hx
      have hleft : (m'.registry.purged m'.now).find? k = some x := hx
      rw [h.now, h.purged] at hleft
      exact hleft

theorem taken_agrees (h : m.Sparser m') (k : Handle) :
    Reply.AgreesWith (.taken (m.registry.take k m.now).1) (.taken (m'.registry.take k m'.now).1) := by
  rw [h.now]
  have hlimits : (m'.registry.purged m.now).limits = (m.registry.purged m.now).limits := by
    rw [h.purged]
  change m'.registry.limits = m.registry.limits at hlimits
  cases hx : m.registry.find? k with
  | none =>
    have hx' : m'.registry.find? k = none := by
      cases hy : m'.registry.find? k with
      | none => rfl
      | some y => cases hx.symm.trans (h.find? k y hy)
    rw [take_of_none hx, take_of_none hx']
    exact .refused rfl rfl (Or.inl rfl)
  | some x =>
    cases hexpired : x.isExpired m.registry.limits m.now with
    | false =>
      have hlive := find?_purged_of_live hx hexpired
      rw [← h.purged, find?_purged, Option.filter_eq_some_iff] at hlive
      rw [take_of_live hx hexpired, take_of_live hlive.1 (hlimits ▸ hexpired)]
      exact .found x.session
    | true =>
      rw [take_of_expired hx hexpired]
      cases hy : m'.registry.find? k with
      | none =>
        rw [take_of_none hy]
        exact .refused rfl rfl (Or.inr ⟨k, rfl, rfl⟩)
      | some y =>
        cases hx.symm.trans (h.find? k y hy)
        rw [take_of_expired hy (hlimits ▸ hexpired)]
        exact .refused rfl rfl (Or.inl rfl)

theorem reply?_agrees (h : m.Sparser m') (c : Call S) :
    List.Forall₂ Reply.AgreesWith (m.reply? c).toList (m'.reply? c).toList := by
  cases c with
  | insert x =>
    simp only [reply?]
    rw [insert_eq h, h.entropy]
    exact .cons (.inserted _ _) .nil
  | take k => exact .cons (taken_agrees h k) .nil
  | advance elapsed => exact .nil
  | purge => exact .nil

/-- **Purges change no reply** that a caller can use. -/
theorem replies_agree (h : m.Sparser m') (calls : List (Call S)) :
    List.Forall₂ Reply.AgreesWith (m.replies (withoutPurges calls)) (m'.replies calls) := by
  induction calls generalizing m m' with
  | nil => exact .nil
  | cons c calls ih =>
    cases hc : c.isPurge with
    | true =>
      cases c with
      | purge => exact ih (sparser_purge h)
      | _ => cases hc
    | false =>
      have hkept : withoutPurges (c :: calls) = c :: withoutPurges calls := by
        rw [withoutPurges, List.filter_cons_of_pos (by rw [hc]; rfl)]
        rfl
      rw [hkept]
      exact List.rel_append (reply?_agrees h c) (ih (sparser_after h c))

end ClockedRegistry

/-! ### A store that drops sessions at once -/

/-- A session with its handle and the time for which it has been held. -/
structure Held (S : Type) where
  handle : Handle
  session : S
  age : Time

namespace Held

variable {S : Type}

def older (elapsed : Time) (x : Held S) : Held S := { x with age := x.age + elapsed }

/-- Those sessions whose age has not reached the time limit. -/
def young (limits : Limits) (l : List (Held S)) : List (Held S) :=
  l.filter fun x => x.age < limits.timeToLive

theorem young_young (limits : Limits) (l : List (Held S)) :
    young limits (young limits l) = young limits l := by
  rw [young, young, List.filter_filter]
  simp only [Bool.and_self]

/-- It does not matter whether sessions are dropped before time passes, too. -/
theorem young_older_young (limits : Limits) (elapsed : Time) (l : List (Held S)) :
    young limits ((young limits l).map (older elapsed)) = young limits (l.map (older elapsed)) := by
  rw [young, young, young, List.filter_map, List.filter_map, List.filter_filter]
  apply congrArg
  apply List.filter_congr
  intro x _
  rw [Bool.eq_iff_iff, Bool.and_eq_true, Function.comp_apply, decide_eq_true_iff, decide_eq_true_iff]
  show x.age + elapsed < limits.timeToLive ∧ x.age < limits.timeToLive ↔ _
  exact and_iff_left_of_imp fun h => Nat.lt_of_le_of_lt (Nat.le_add_right _ _) h

end Held

/-- A store that drops each session at the instant at which its age reaches the time limit. -/
structure PromptStore (S : Type) where
  limits : Limits
  held : List (Held S)
  entropy : Entropy

namespace PromptStore

variable {S : Type}

variable (S) in
def new (limits : Limits) (e : Entropy) : PromptStore S := ⟨limits, [], e⟩

def insert (p : PromptStore S) (x : S) : Except Service.Error Handle × PromptStore S :=
  if p.limits.maxSessions ≤ p.held.length then (.error (.registryFull p.limits.maxSessions), p)
  else
    match drawHandle (p.held.map Held.handle) p.entropy with
    | (.error err, entropy) => (.error (.pairing err), { p with entropy })
    | (.ok h, entropy) =>
      (.ok h, { p with held := Held.young p.limits (p.held ++ [⟨h, x, 0⟩]), entropy })

def take (p : PromptStore S) (h : Handle) : Option S × PromptStore S :=
  ((p.held.find? fun x => x.handle == h).map Held.session,
    { p with held := p.held.filter fun x => x.handle != h })

def after (p : PromptStore S) : Call S → PromptStore S
  | .insert x => (p.insert x).2
  | .take h => (p.take h).2
  | .advance elapsed => { p with held := Held.young p.limits (p.held.map (Held.older elapsed)) }
  | .purge => p

def run (p : PromptStore S) (calls : List (Call S)) : PromptStore S := calls.foldl after p

theorem limits_after (p : PromptStore S) (c : Call S) : (p.after c).limits = p.limits := by
  cases c with
  | insert x =>
    show (p.insert x).2.limits = p.limits
    rw [insert]
    split
    · rfl
    · split
      · rfl
      · rfl
  | _ => rfl

theorem limits_run (p : PromptStore S) (calls : List (Call S)) : (p.run calls).limits = p.limits := by
  induction calls generalizing p with
  | nil => rfl
  | cons c calls ih => exact (ih _).trans (limits_after p c)

end PromptStore

namespace ClockedRegistry

variable {S : Type}

/-- An entry with its age. -/
def heldAt (now : Time) (x : Entry S) : Held S := ⟨x.handle, x.session, now - x.createdAt⟩

/-- The entries whose age has not reached the time limit. -/
def live (m : ClockedRegistry S) : List (Held S) :=
  Held.young m.registry.limits (m.registry.entries.map (heldAt m.now))

/-- The store holds exactly what is alive in the registry, none of which comes from the future. -/
structure Simulates (m : ClockedRegistry S) (p : PromptStore S) : Prop where
  limits : p.limits = m.registry.limits
  entropy : p.entropy = m.entropy
  held : p.held = m.live
  createdAt_le : ∀ x ∈ m.registry.entries, x.createdAt ≤ m.now

variable {m : ClockedRegistry S} {p : PromptStore S}

theorem live_eq_map_purged (m : ClockedRegistry S) :
    m.live = (m.registry.purged m.now).entries.map (heldAt m.now) := by
  rw [live, Held.young, List.filter_map]
  apply congrArg
  apply List.filter_congr
  intro x _
  rw [Bool.eq_iff_iff, Function.comp_apply, decide_eq_true_iff, Bool.not_eq_true',
    Entry.isExpired_eq_false_iff]
  rfl

theorem find?_live (m : ClockedRegistry S) (h : Handle) :
    (m.live.find? fun x => x.handle == h) =
      ((m.registry.purged m.now).find? h).map (heldAt m.now) := by
  rw [live_eq_map_purged, List.find?_map]
  rfl

theorem live_of_purged (m : ClockedRegistry S) :
    live { m with registry := m.registry.purged m.now } = m.live := by
  show Held.young m.registry.limits ((m.registry.purged m.now).entries.map (heldAt m.now)) = _
  rw [← live_eq_map_purged]
  exact Held.young_young _ _

theorem simulates_purged (h : m.Simulates p) :
    Simulates { m with registry := m.registry.purged m.now } p where
  limits := h.limits
  entropy := h.entropy
  held := h.held.trans (live_of_purged m).symm
  createdAt_le x hx := h.createdAt_le x (List.mem_filter.mp hx).1

theorem simulates_take (h : m.Simulates p) (k : Handle) :
    (m.after (.take k)).Simulates (p.after (.take k)) := by
  have hleft : m.after (.take k) = { m with registry := m.registry.erase k } := by
    rw [after, take_snd]
  rw [hleft]
  refine ⟨h.limits, h.entropy, ?_, ?_⟩
  · show p.held.filter _ = Held.young _ ((m.registry.entries.filter _).map _)
    rw [h.held, live, Held.young, Held.young, List.filter_filter, List.filter_map, List.filter_map,
      List.filter_filter]
    apply congrArg
    apply List.filter_congr
    intro x _
    exact Bool.and_comm _ _
  · intro x hx
    exact h.createdAt_le x (List.mem_filter.mp hx).1

theorem simulates_advance (h : m.Simulates p) (elapsed : Time) :
    (m.after (.advance elapsed)).Simulates (p.after (.advance elapsed)) := by
  refine ⟨h.limits, h.entropy, ?_, ?_⟩
  · have hages : m.registry.entries.map (heldAt (m.now + elapsed)) =
        (m.registry.entries.map (heldAt m.now)).map (Held.older elapsed) := by
      rw [List.map_map]
      apply List.map_congr_left
      intro x hx
      simp only [heldAt, Held.older, Function.comp_apply, Held.mk.injEq, true_and]
      exact Nat.sub_add_comm (h.createdAt_le x hx)
    show Held.young p.limits (p.held.map _) =
      Held.young m.registry.limits (m.registry.entries.map (heldAt (m.now + elapsed)))
    rw [hages, h.limits, h.held, live, Held.young_older_young]
  · intro x hx
    exact Nat.le_trans (h.createdAt_le x hx) (Nat.le_add_right _ _)

theorem size_purged (h : m.Simulates p) : (m.registry.purged m.now).size = p.held.length := by
  rw [h.held, live_eq_map_purged, List.length_map]
  rfl

theorem handles_purged (h : m.Simulates p) :
    (m.registry.purged m.now).handles = p.held.map Held.handle := by
  rw [h.held, live_eq_map_purged, List.map_map]
  rfl

/-- **Both insert alike**: they answer the same and hold the same afterwards. -/
theorem insert_simulates (h : m.Simulates p) (x : S) :
    (m.registry.insert x m.now m.entropy).1 = (p.insert x).1 ∧
      (m.after (.insert x)).Simulates (p.insert x).2 := by
  rcases m.registry.insert_cases x m.now m.entropy with ⟨hfull, hr⟩ | ⟨hroom, err, e, hd, hr⟩ |
    ⟨hroom, k, e, hfree, hd, hr⟩
  · rw [size_purged h, ← h.limits] at hfull
    have hp : p.insert x = (.error (.registryFull m.registry.limits.maxSessions), p) := by
      rw [PromptStore.insert, if_pos hfull, h.limits]
    rw [after, hr, hp]
    exact ⟨rfl, simulates_purged h⟩
  · rw [size_purged h, ← h.limits, ← Nat.not_le] at hroom
    have hp : p.insert x = (.error (.pairing err), { p with entropy := e }) := by
      rw [PromptStore.insert, if_neg hroom, ← handles_purged h, h.entropy, hd]
    rw [after, hr, hp]
    have hpurged := simulates_purged h
    exact ⟨rfl, hpurged.limits, rfl, hpurged.held, hpurged.createdAt_le⟩
  · rw [size_purged h, ← h.limits, ← Nat.not_le] at hroom
    have hp : p.insert x = (.ok k,
        { p with held := Held.young p.limits (p.held ++ [⟨k, x, 0⟩]), entropy := e }) := by
      rw [PromptStore.insert, if_neg hroom, ← handles_purged h, h.entropy, hd]
    rw [after, hr, hp]
    refine ⟨rfl, h.limits, rfl, ?_, ?_⟩
    · have hnew : heldAt m.now ⟨k, x, m.now⟩ = (⟨k, x, 0⟩ : Held S) := by
        rw [heldAt, Nat.sub_self]
      show Held.young p.limits (p.held ++ [⟨k, x, 0⟩]) = Held.young m.registry.limits
        (((m.registry.purged m.now).entries ++ [(⟨k, x, m.now⟩ : Entry S)]).map (heldAt m.now))
      rw [List.map_append, List.map_singleton, hnew, ← live_eq_map_purged, h.limits, h.held]
    · intro y hy
      rcases List.mem_append.mp hy with hy | hy
      · exact (simulates_purged h).createdAt_le y hy
      · exact Nat.le_of_eq (congrArg Entry.createdAt (List.mem_singleton.mp hy))

theorem simulates_after (h : m.Simulates p) (c : Call S) : (m.after c).Simulates (p.after c) := by
  cases c with
  | insert x => exact (insert_simulates h x).2
  | take k => exact simulates_take h k
  | advance elapsed => exact simulates_advance h elapsed
  | purge => exact simulates_purged h

theorem simulates_run (h : m.Simulates p) (calls : List (Call S)) :
    (m.run calls).Simulates (p.run calls) := by
  induction calls generalizing m p with
  | nil => exact h
  | cons c calls ih => exact ih (simulates_after h c)

theorem simulates_new (limits : Limits) (now : Time) (e : Entropy) :
    (new S limits now e).Simulates (.new S limits e) :=
  ⟨rfl, rfl, rfl, List.forall_mem_nil _⟩

/-- Both hand out the same session, or neither does. -/
theorem take_simulates (h : m.Simulates p) (k : Handle) :
    (m.registry.take k m.now).1.toOption = (p.take k).1 := by
  rw [toOption_take, PromptStore.take, h.held, find?_live, Option.map_map]
  rfl

/-- A registry at work is full when the store is. -/
theorem insert_eq_full_iff (h : m.Simulates p) (x : S) :
    (m.registry.insert x m.now m.entropy).1 = .error (.registryFull m.registry.limits.maxSessions) ↔
      m.registry.limits.maxSessions ≤ p.held.length := by
  rw [← size_purged h]
  rcases m.registry.insert_cases x m.now m.entropy with ⟨hfull, hr⟩ | ⟨hroom, err, e, -, hr⟩ |
    ⟨hroom, k, e, hfree, -, hr⟩
  · rw [hr]
    exact iff_of_true rfl hfull
  · rw [hr]
    exact iff_of_false nofun (Nat.not_le.mpr hroom)
  · rw [hr]
    exact iff_of_false nofun (Nat.not_le.mpr hroom)

/-- The store holds the handles that can be taken. -/
theorem take_eq_ok_iff (h : m.Simulates p) (k : Handle) :
    (∃ x, (m.registry.take k m.now).1 = .ok x) ↔ k ∈ p.held.map Held.handle := by
  rw [← handles_purged h, mem_handles_iff]
  have htake := toOption_take m.registry k m.now
  constructor
  · rintro ⟨x, hx⟩
    rw [hx] at htake
    obtain ⟨y, hy, -⟩ := Option.map_eq_some_iff.mp htake.symm
    exact ⟨y, hy⟩
  · rintro ⟨y, hy⟩
    rw [hy] at htake
    cases hanswer : (m.registry.take k m.now).1 with
    | error err =>
      rw [hanswer] at htake
      cases htake
    | ok x => exact ⟨x, rfl⟩

/-- **Expired sessions may be dropped late.**  However many purges there are among the calls of a registry,
each insertion gives the same handle or failure and draws the same bytes, and each taking gives the same
session or none, where what was expired may have become unknown.  After any calls the entries that are alive
are those of a store that drops each session when its age reaches the time limit, which with a limit of zero
is at once.  The registry inserts as that store does, is full when the store is, and has the sessions to give
that the store has. -/
theorem expiry_may_be_late (limits : Limits) (now : Time) (e : Entropy) (calls : List (Call S)) :
    let start := new S limits now e
    let m := start.run calls
    let p := (PromptStore.new S limits e).run calls
    List.Forall₂ Reply.AgreesWith (start.replies (withoutPurges calls)) (start.replies calls) ∧
    m.live = p.held ∧ m.entropy = p.entropy ∧
    (∀ x ∈ p.held, x.age < limits.timeToLive) ∧
    (∀ x, (m.registry.insert x m.now m.entropy).1 = (p.insert x).1 ∧
      ((m.registry.insert x m.now m.entropy).1 = .error (.registryFull limits.maxSessions) ↔
        limits.maxSessions ≤ p.held.length)) ∧
    ∀ h, (m.registry.take h m.now).1.toOption = (p.take h).1 ∧
      ((∃ x, (m.registry.take h m.now).1 = .ok x) ↔ h ∈ p.held.map Held.handle) := by
  intro start m p
  have h : m.Simulates p := simulates_run (simulates_new limits now e) calls
  have hlimits : m.registry.limits = limits := by
    rw [← h.limits, PromptStore.limits_run]
    rfl
  refine ⟨replies_agree (sparser_refl start) calls, h.held.symm, h.entropy.symm, ?_, ?_, ?_⟩
  · intro x hx
    rw [h.held, live, Held.young, hlimits] at hx
    exact of_decide_eq_true (List.mem_filter.mp hx).2
  · intro x
    have hfull := insert_eq_full_iff h x
    rw [hlimits] at hfull
    exact ⟨(insert_simulates h x).1, hfull⟩
  · intro k
    exact ⟨take_simulates h k, take_eq_ok_iff h k⟩

end ClockedRegistry

end Pairing
