import Pairing.Proofs.Channel
import Pairing.Proofs.Service.Exchange
import Pairing.Proofs.Service.Run

/-!
# Where random bytes go

A service reads its source for three things: scalars, nonces and candidates for a handle.  `Moment.draws` lists
what a step reads, in its order.  `Entropy.Reads` says that such a list is read off a source, each item directly
after the one before it, so that no two of them overlap (`Entropy.Reads.pairwise`).

Each step reads what it lists, whether or not it succeeds, and all that is random in what it does is what it
has read (`Moment.spends`).  So does a run, from one stream (`reads_run`, `spends_of_mem_history`).
-/

namespace Pairing

/-! ### Reading a source -/

namespace Entropy

/-- What random bytes are read for. -/
inductive Use
  | scalar
  | nonce
  | candidate
  deriving DecidableEq

def Use.length : Use → Nat
  | .scalar => 64
  | .nonce => 24
  | .candidate => 16

/-- A stretch of a source that is read for some use. -/
structure Draw where
  use : Use
  position : Nat
  deriving DecidableEq

/-- The position behind a stretch. -/
def Draw.stop (d : Draw) : Nat := d.position + d.use.length

/-- The stretches are read one after another, all of them successfully, and that leaves the source as given. -/
inductive Reads : Entropy → List Draw → Entropy → Prop
  | nil (e : Entropy) : Reads e [] e
  | cons {e e' : Entropy} {ds : List Draw} (use : Use) (supplied : e.used + use.length ≤ e.supply)
      (rest : Reads { e with used := e.used + use.length } ds e') :
      Reads e (⟨use, e.used⟩ :: ds) e'

namespace Reads

variable {e e' e'' : Entropy} {ds ds' : List Draw}

theorem append (h : Reads e ds e') (h' : Reads e' ds' e'') : Reads e (ds ++ ds') e'' := by
  induction h with
  | nil e => exact h'
  | cons use supplied _ ih => exact .cons use supplied (ih h')

/-- Reading moves the position and changes nothing else. -/
theorem eq_used (h : Reads e ds e') : e' = { e with used := e'.used } := by
  induction h with
  | nil e => rfl
  | cons use supplied _ ih => exact ih

theorem le_position (h : Reads e ds e') : ∀ d ∈ ds, e.used ≤ d.position := by
  induction h with
  | nil e => exact List.forall_mem_nil _
  | cons use supplied _ ih =>
    intro d hd
    rcases List.mem_cons.mp hd with rfl | hd
    · exact Nat.le_refl _
    · exact Nat.le_trans (Nat.le_add_right _ _) (ih d hd)

/-- **No two stretches overlap.** -/
theorem pairwise (h : Reads e ds e') : ds.Pairwise fun d d' => d.stop ≤ d'.position := by
  induction h with
  | nil e => exact .nil
  | cons use supplied rest ih => exact .cons rest.le_position ih

end Reads

end Entropy

open Entropy (Draw Reads)

/-! ### Reading for a handle -/

namespace Registry

variable {S : Type} {taken : List Handle} {e : Entropy}

theorem reads_tried (taken : List Handle) (e : Entropy) :
    Reads e ((tried taken e).map (Draw.mk .candidate)) (drawHandle taken e).2 := by
  induction e using drawing_induction taken with
  | short e hs =>
    rw [tried_of_short hs, drawHandle_of_short hs]
    exact .nil e
  | free e hs hfree =>
    rw [tried_of_free hs hfree, drawHandle_of_free hs hfree]
    exact .cons .candidate hs (.nil _)
  | again e hs htaken ih =>
    rw [tried_of_taken hs htaken, drawHandle_of_taken hs htaken]
    exact .cons .candidate hs ih

/-- The handles of the entries whose age has not reached the time limit. -/
def youngHandles (r : Registry S) (now : Time) : List Handle :=
  (r.entries.filter fun y => now - y.createdAt < r.limits.timeToLive).map Entry.handle

/-- What an insertion reads: its candidates, and nothing for a registry that is full. -/
def draws (r : Registry S) (now : Time) (e : Entropy) : List Draw :=
  if r.limits.maxSessions ≤ (r.youngHandles now).length then []
  else (tried (r.youngHandles now) e).map (Draw.mk .candidate)

variable (r : Registry S) (x : S) (now : Time) (e : Entropy)

theorem handles_purged_eq : (r.purged now).handles = r.youngHandles now := by
  rw [handles, entries_purged, youngHandles]

theorem size_purged_eq : (r.purged now).size = (r.youngHandles now).length := by
  rw [← handles_purged_eq, handles, List.length_map, size]

theorem draws_eq : r.draws now e =
    if r.limits.maxSessions ≤ (r.purged now).size then []
    else (tried (r.purged now).handles e).map (Draw.mk .candidate) := by
  rw [draws, size_purged_eq, handles_purged_eq]

theorem reads_insert : Reads e (r.draws now e) (r.insert x now e).2.2 := by
  have htried := reads_tried (r.purged now).handles e
  rcases r.insert_cases x now e with ⟨hfull, hr⟩ | ⟨hroom, err, e', hd, hr⟩ |
    ⟨hroom, h, e', hfree, hd, hr⟩
  · rw [draws_eq, if_pos hfull, hr]
    exact .nil e
  · rw [hd] at htried
    rw [draws_eq, if_neg (Nat.not_le.mpr hroom), hr]
    exact htried
  · rw [hd] at htried
    rw [draws_eq, if_neg (Nat.not_le.mpr hroom), hr]
    exact htried

variable {r x now e}

/-- The last candidate is the handle that is given out. -/
theorem exists_draws_eq_of_insert {h : Handle} (hi : (r.insert x now e).1 = .ok h) :
    ∃ ds p, r.draws now e = ds ++ [⟨.candidate, p⟩] ∧ h = candidate e p := by
  rcases r.insert_cases x now e with ⟨-, hr⟩ | ⟨-, err, e', -, hr⟩ | ⟨hroom, k, e', hfree, hd, hr⟩
  · cases (congrArg Prod.fst hr).symm.trans hi
  · cases (congrArg Prod.fst hr).symm.trans hi
  · cases (congrArg Prod.fst hr).symm.trans hi
    obtain ⟨ps, p, htried, hp⟩ := exists_tried_eq_of_drawn (congrArg Prod.fst hd)
    refine ⟨ps.map (Draw.mk .candidate), p, ?_, hp⟩
    rw [draws_eq, if_neg (Nat.not_le.mpr hroom), htried, List.map_append]
    rfl

theorem length_lt_of_mem_draws {d : Draw} (hd : d ∈ r.draws now e) :
    (r.youngHandles now).length < r.limits.maxSessions := by
  rw [← Nat.not_le]
  intro hfull
  rw [draws, if_pos hfull] at hd
  cases hd

/-- All other candidates are taken. -/
theorem taken_or_given {p : Nat} (hp : ⟨.candidate, p⟩ ∈ r.draws now e) :
    candidate e p ∈ r.youngHandles now ∨ (r.insert x now e).1 = .ok (candidate e p) := by
  have hroom := Nat.not_le.mpr (length_lt_of_mem_draws hp)
  rw [← size_purged_eq] at hroom
  rw [draws_eq, if_neg hroom] at hp
  obtain ⟨p', hp', hdraw⟩ := List.mem_map.mp hp
  cases hdraw
  rcases taken_or_drawn hp' with htaken | hdrawn
  · rw [← handles_purged_eq]
    exact Or.inl htaken
  · obtain ⟨hfree, hr⟩ := insert_of_drawn (x := x) hroom (Prod.ext hdrawn rfl)
    exact Or.inr (congrArg Prod.fst hr)

end Registry

/-! ### One step -/

namespace Service

open ExchangeGroup Ristretto

/-- The session with which a start waits that has the scalar `x`. -/
def waiting (q : StartRequest) (x : Ristretto.Scalar) : Session Element :=
  let g := generatorWith q.password q.context
  let context := q.context.getD []
  { role := .initiator, status := .started, context := ⟨context⟩, scalar := x, generator := g,
    ownMessage := encode (smul x g) ++ context }

theorem opened_eq_waiting (q : StartRequest) (x : Ristretto.Scalar) :
    (.opened .initiator (Bytes.ofText q.password) (contextOf q.context) x : Session Element) =
      waiting q x := by
  rw [Session.opened, contextOf_eq, waiting, generatorWith]

theorem start_of_supply {s : Service Element} (q : StartRequest)
    (hs : s.entropy.used + 64 ≤ s.entropy.supply) :
    Session.start (Bytes.ofText q.password) (contextOf q.context) s.entropy =
      (.ok ((waiting q s.nextScalar).ownMessage, waiting q s.nextScalar),
        { s.entropy with used := s.entropy.used + 64 }) := by
  rw [Session.start_of_scalar (sampleScalar_of_supply hs), opened_eq_waiting, nextScalar]

/-- The answer to a request to seal under the nonce at this position: the nonce, then the ciphertext of the text
under it. -/
def SealedAt (stream : Entropy) (p : Nat) (q : SealRequest) (c : SealResponse) : Prop :=
  ∃ h : q.key.length = 32,
    let nonce := stream.nonceAt p
    c.sealedText = Transport.encode
      (nonce.1 ++ XChaCha20Poly1305.encrypt ⟨q.key, h⟩ nonce (Bytes.ofText q.plaintext))

namespace Moment

/-- What a step reads. -/
def draws (m : Moment Element) : List Draw :=
  let e := m.service.entropy
  match m.operation with
  | .start _ =>
    if e.used + 64 ≤ e.supply then
      ⟨.scalar, e.used⟩ :: m.service.registry.draws m.time { e with used := e.used + 64 }
    else []
  | .exchange q =>
    if Accepted q ∧ e.used + 64 ≤ e.supply then [⟨.scalar, e.used⟩] else []
  | .sealText q =>
    if q.key.length = 32 ∧ e.used + 24 ≤ e.supply then [⟨.nonce, e.used⟩] else []
  | .insert _ => m.service.registry.draws m.time e
  | _ => []

/-- If there is room, the step tries handles from this stream until one is free, which it gives out. -/
structure OffersFrom (m : Moment Element) (stream : Entropy) : Prop where
  room : ∀ p, ⟨.candidate, p⟩ ∈ m.draws →
    (m.service.registry.youngHandles m.time).length < m.service.registry.limits.maxSessions
  taken_or_given : ∀ p, ⟨.candidate, p⟩ ∈ m.draws →
    Registry.candidate stream p ∈ m.service.registry.youngHandles m.time ∨
      m.given = some (Registry.candidate stream p)
  last : ∀ h, m.given = some h →
    ∃ ds p, m.draws = ds ++ [⟨.candidate, p⟩] ∧ h = Registry.candidate stream p

/-- All that is random in what a step does is what it reads from this stream: the scalar of a session or of an
answer, the nonce of a sealed text, and the handles that are tried.  If it has to read but reads nothing, then it
fails and changes nothing. -/
def SpendsFrom (m : Moment Element) (stream : Entropy) : Prop :=
  match m.operation with
  | .start q =>
    (m.draws = [] ∧ ∃ err, m.service.start q = (.error err, m.service)) ∨
    ∃ p ds,
      let x := waiting q (scalarAt stream p)
      m.draws = ⟨.scalar, p⟩ :: ds ∧ m.brought = some x ∧
        (∀ a, (m.service.start q).1 = .ok a → a.messageA = Transport.encode x.ownMessage ∧
          ⟨a.session, x, m.time⟩ ∈ m.next.registry.entries) ∧
        m.OffersFrom stream
  | .exchange q =>
    (m.draws = [] ∧ ∃ err, m.service.exchange q = (.error err, m.service)) ∨
    ∃ p message y,
      let x := scalarAt stream p
      m.draws = [⟨.scalar, p⟩] ∧ Carries q.messageA message y ∧
        (m.service.exchange q).1 =
          if smul x y = Element.identity then .error (.pairing .sharedIdentity)
          else .ok (responseTo q message x y)
  | .sealText q =>
    (m.draws = [] ∧ ∃ err, m.service.sealText q = (.error err, m.service)) ∨
    ∃ p c, m.draws = [⟨.nonce, p⟩] ∧ (m.service.sealText q).1 = .ok c ∧ SealedAt stream p q c
  | .insert _ => m.OffersFrom stream
  | _ => m.draws = []

/-- How much of a stream has been read does not matter. -/
theorem OffersFrom.of_used {m : Moment Element} {e : Entropy} {i : Nat}
    (h : m.OffersFrom { e with used := i }) : m.OffersFrom e := ⟨h.room, h.taken_or_given, h.last⟩

/-- An insertion offers what it reads. -/
theorem offersFrom {m : Moment Element} {x : Session Element} {e : Entropy} (ds : List Draw)
    (hgiven : m.given = (m.service.registry.insert x m.time e).1.toOption)
    (hdraws : m.draws = ds ++ m.service.registry.draws m.time e)
    (hds : ∀ p, ⟨.candidate, p⟩ ∉ ds) : m.OffersFrom e := by
  have hmem : ∀ p, ⟨.candidate, p⟩ ∈ m.draws →
      ⟨.candidate, p⟩ ∈ m.service.registry.draws m.time e := by
    intro p hp
    rw [hdraws] at hp
    exact (List.mem_append.mp hp).resolve_left (hds p)
  refine ⟨fun p hp => Registry.length_lt_of_mem_draws (hmem p hp), ?_, ?_⟩
  · intro p hp
    rw [hgiven, toOption_eq_some_iff]
    exact Registry.taken_or_given (hmem p hp)
  · intro h hh
    rw [hgiven, toOption_eq_some_iff] at hh
    obtain ⟨ds', p, hds', hp⟩ := Registry.exists_draws_eq_of_insert hh
    refine ⟨ds ++ ds', p, ?_, hp⟩
    rw [hdraws, hds', List.append_assoc]

/-- What an answered start sends and registers. -/
theorem started_of_ok {s : Service Element} {q : StartRequest}
    (hs : s.entropy.used + 64 ≤ s.entropy.supply) {a : StartResponse} (ha : (s.start q).1 = .ok a) :
    a.messageA = Transport.encode (waiting q s.nextScalar).ownMessage ∧
      ⟨a.session, waiting q s.nextScalar, s.now⟩ ∈ (s.start q).2.registry.entries := by
  have hsession := start_of_supply q hs
  refine ⟨messageA_of_session hsession ha, ?_⟩
  have hissues : Issues ⟨s, .start q⟩ a.session (waiting q s.nextScalar) := by
    refine ⟨?_, brought_of_session hsession⟩
    simp only [given, ha]
    rfl
  exact (Registry.find?_eq_some_iff.mp (find?_next_of_issues hissues)).1

theorem start_spends (s : Service Element) (q : StartRequest) :
    Reads s.entropy (draws ⟨s, .start q⟩) (s.start q).2.entropy ∧
      SpendsFrom ⟨s, .start q⟩ s.entropy := by
  by_cases hs : s.entropy.used + 64 ≤ s.entropy.supply
  · let e : Entropy := { s.entropy with used := s.entropy.used + 64 }
    have hsession := start_of_supply q hs
    have hdraws : draws ⟨s, .start q⟩ = [⟨.scalar, s.entropy.used⟩] ++ s.registry.draws s.now e :=
      if_pos hs
    constructor
    · rw [hdraws, start_of_ok hsession]
      exact .cons .scalar hs (Registry.reads_insert _ _ _ _)
    · refine Or.inr ⟨s.entropy.used, _, hdraws, brought_of_session hsession, ?_, ?_⟩
      · intro a ha
        exact started_of_ok hs ha
      · exact .of_used (offersFrom [_] (given_of_session hsession) hdraws nofun)
  · have hdraws : draws ⟨s, .start q⟩ = [] := if_neg hs
    have hanswer := start_of_error (q := q)
      (Session.start_of_unavailable (sampleScalar_of_short hs))
    rw [hdraws, hanswer]
    exact ⟨.nil _, Or.inl ⟨hdraws, _, hanswer⟩⟩

theorem exchange_spends (s : Service Element) (q : ExchangeRequest) :
    Reads s.entropy (draws ⟨s, .exchange q⟩) (s.exchange q).2.entropy ∧
      SpendsFrom ⟨s, .exchange q⟩ s.entropy := by
  by_cases hq : Accepted q
  · obtain ⟨message, y, hcarries⟩ := id hq
    by_cases hs : s.entropy.used + 64 ≤ s.entropy.supply
    · have hdraws : draws ⟨s, .exchange q⟩ = [⟨.scalar, s.entropy.used⟩] := if_pos ⟨hq, hs⟩
      have hanswer := exchange_of_supply hcarries hs
      rw [hdraws, hanswer]
      refine ⟨.cons .scalar hs (.nil _), Or.inr ⟨s.entropy.used, message, y, hdraws, hcarries, ?_⟩⟩
      show (s.exchange q).1 = _
      rw [hanswer, nextScalar]
    · have hdraws : draws ⟨s, .exchange q⟩ = [] := if_neg fun h => hs h.2
      have hanswer := exchange_of_short hcarries (Nat.not_le.mp hs)
      rw [hdraws, hanswer]
      exact ⟨.nil _, Or.inl ⟨hdraws, _, hanswer⟩⟩
  · have hdraws : draws ⟨s, .exchange q⟩ = [] := if_neg fun h => hq h.1
    obtain ⟨err, hrefused⟩ := exists_error_of_not_accepted hq
    have hanswer := exchange_of_refused (s := s) hrefused
    rw [hdraws, hanswer]
    exact ⟨.nil _, Or.inl ⟨hdraws, _, hanswer⟩⟩

theorem seal_spends (s : Service Element) (q : SealRequest) :
    Reads s.entropy (draws ⟨s, .sealText q⟩) (s.sealText q).2.entropy ∧
      SpendsFrom ⟨s, .sealText q⟩ s.entropy := by
  by_cases hlength : q.key.length = Key.length
  · let k : Key := ⟨⟨q.key, hlength⟩⟩
    by_cases hs : s.entropy.used + 24 ≤ s.entropy.supply
    · have hdraws : draws ⟨s, .sealText q⟩ = [⟨.nonce, s.entropy.used⟩] := if_pos ⟨hlength, hs⟩
      have hanswer := sealText_eq_of_supply s k q.plaintext hs
      refine ⟨?_, Or.inr ⟨s.entropy.used, _, hdraws, congrArg Prod.fst hanswer, hlength, rfl⟩⟩
      rw [hdraws, congrArg Prod.snd hanswer]
      exact .cons .nonce hs (.nil _)
    · have hdraws : draws ⟨s, .sealText q⟩ = [] := if_neg fun h => hs h.2
      have hanswer := sealText_eq_of_short s k q.plaintext hs
      refine ⟨?_, Or.inl ⟨hdraws, _, hanswer⟩⟩
      rw [hdraws, congrArg Prod.snd hanswer]
      exact .nil _
  · have hdraws : draws ⟨s, .sealText q⟩ = [] := if_neg fun h => hlength h.1
    have hanswer : s.sealText q = (.error (.pairing .keyLength), s) := by
      simp only [sealText, Key.ofBytes_of_length_ne hlength]
    rw [hdraws, hanswer]
    exact ⟨.nil _, Or.inl ⟨hdraws, _, hanswer⟩⟩

/-- **A step reads what it lists, and uses nothing else that is random.** -/
theorem spends (m : Moment Element) (hm : ∀ e, m.operation ≠ .supply e) :
    Reads m.service.entropy m.draws m.next.entropy ∧ m.SpendsFrom m.service.entropy := by
  obtain ⟨s, op⟩ := m
  cases op with
  | start q => exact start_spends s q
  | exchange q => exact exchange_spends s q
  | finish q =>
    have hnext : (s.finish q).2.entropy = s.entropy := by rw [finish_snd_eq]
    refine ⟨?_, rfl⟩
    show Reads s.entropy [] (s.finish q).2.entropy
    rw [hnext]
    exact .nil _
  | sealText q => exact seal_spends s q
  | insert x =>
    exact ⟨Registry.reads_insert _ _ _ _, offersFrom (x := x) [] rfl rfl nofun⟩
  | supply e => exact absurd rfl (hm e)
  | _ => exact ⟨.nil _, rfl⟩

theorem SpendsFrom.of_used {m : Moment Element} {e : Entropy} {i : Nat}
    (h : m.SpendsFrom { e with used := i }) : m.SpendsFrom e := by
  obtain ⟨s, op⟩ := m
  cases op with
  | start q =>
    rcases h with h | ⟨p, ds, hdraws, hbrought, hmessage, hoffers⟩
    · exact Or.inl h
    · exact Or.inr ⟨p, ds, hdraws, hbrought, hmessage, hoffers.of_used⟩
  | insert x => exact OffersFrom.of_used h
  | _ => exact h

/-- What a step seals has a nonce that it reads. -/
theorem SpendsFrom.exists_nonce {m : Moment Element} {stream : Entropy} (hm : m.SpendsFrom stream)
    {q : SealRequest} {c : SealResponse} (hq : m.operation = .sealText q)
    (hc : (m.service.sealText q).1 = .ok c) :
    ∃ p, ⟨.nonce, p⟩ ∈ m.draws ∧ SealedAt stream p q c := by
  obtain ⟨s, op⟩ := m
  cases hq
  rcases hm with ⟨-, err, herr⟩ | ⟨p, c', hdraws, hanswer, hsealed⟩
  · cases (congrArg Prod.fst herr).symm.trans hc
  · cases hanswer.symm.trans hc
    refine ⟨p, ?_, hsealed⟩
    rw [hdraws]
    exact List.mem_singleton_self _

end Moment

/-! ### Whole runs -/

variable {s : Service Element} {ops : List (Operation Element)}

/-- **A run reads what its steps list**, one after another. -/
theorem reads_run (hops : ∀ e, .supply e ∉ ops) :
    Reads s.entropy ((s.history ops).flatMap Moment.draws) (s.run ops).entropy := by
  induction ops generalizing s with
  | nil => exact .nil _
  | cons op ops ih =>
    obtain ⟨hop, hops⟩ := of_forall_not_mem_cons hops
    obtain ⟨hreads, -⟩ := Moment.spends ⟨s, op⟩ hop
    exact hreads.append (ih hops)

/-- Every step of a run reads from the stream that the run began with. -/
theorem spends_of_mem_history (hops : ∀ e, .supply e ∉ ops) {m : Moment Element}
    (hm : m ∈ s.history ops) :
    Reads m.service.entropy m.draws m.next.entropy ∧ m.SpendsFrom s.entropy := by
  induction ops generalizing s with
  | nil => cases hm
  | cons op ops ih =>
    obtain ⟨hop, hops⟩ := of_forall_not_mem_cons hops
    have hspends := Moment.spends ⟨s, op⟩ hop
    rcases List.mem_cons.mp hm with rfl | hm
    · exact hspends
    · obtain ⟨hreads, hfrom⟩ := ih hops hm
      -- the rest of the run has the same stream, read up to some point
      have hstream : (s.after op).entropy = _ := hspends.1.eq_used
      rw [hstream] at hfrom
      exact ⟨hreads, hfrom.of_used⟩

/-- **No random byte is used twice.**  In a run over one stream, every step reads on where the one before it
stopped, and keeps what it has read even if it fails; so no two of the stretches that are read for scalars,
nonces and candidates overlap.  All that is random in what a step does is what it has read.  In particular
two texts are never sealed with nonces that have a byte of the stream in common. -/
theorem randomness_is_spent_once (s : Service Element) (ops : List (Operation Element))
    (hops : ∀ e, .supply e ∉ ops) :
    let past := s.history ops
    Reads s.entropy (past.flatMap Moment.draws) (s.run ops).entropy ∧
    (past.flatMap Moment.draws).Pairwise (fun d d' => d.stop ≤ d'.position) ∧
    (∀ m ∈ past, Reads m.service.entropy m.draws m.next.entropy ∧ m.SpendsFrom s.entropy) ∧
    past.Pairwise fun m m' => ∀ q q' c c',
      m.operation = .sealText q → (m.service.sealText q).1 = .ok c →
      m'.operation = .sealText q' → (m'.service.sealText q').1 = .ok c' →
      ∃ p p', p + 24 ≤ p' ∧ SealedAt s.entropy p q c ∧ SealedAt s.entropy p' q' c' := by
  intro past
  have hreads := reads_run (s := s) hops
  refine ⟨hreads, hreads.pairwise, fun m hm => spends_of_mem_history hops hm, ?_⟩
  have hpairwise : past.Pairwise fun m m' =>
      ∀ d ∈ m.draws, ∀ d' ∈ m'.draws, d.stop ≤ d'.position :=
    (List.pairwise_flatMap.mp hreads.pairwise).2
  refine hpairwise.imp_of_mem ?_
  intro m m' hm hm' hapart q q' c c' hq hc hq' hc'
  obtain ⟨p, hp, hsealed⟩ := (spends_of_mem_history hops hm).2.exists_nonce hq hc
  obtain ⟨p', hp', hsealed'⟩ := (spends_of_mem_history hops hm').2.exists_nonce hq' hc'
  exact ⟨p, p', hapart _ hp _ hp', hsealed, hsealed'⟩

/-- A start is refused by a registry without any room, and a text for its key.  The two texts that are sealed
have their nonces behind the scalar, one after the other. -/
theorem refused_start_keeps_its_scalar :
    let s : Service Element := new Element { limits := { maxSessions := 0 } } ⟨UInt8.ofNat, 112, 0⟩
    let ops : List (Operation Element) := [.start ⟨"p", none⟩, .sealText ⟨List.replicate 32 7, "a"⟩,
      .sealText ⟨[], "b"⟩, .sealText ⟨List.replicate 32 7, "b"⟩]
    (∀ e, .supply e ∉ ops) ∧
      Reads s.entropy [⟨.scalar, 0⟩, ⟨.nonce, 64⟩, ⟨.nonce, 88⟩] (s.run ops).entropy := by
  intro s ops
  have hops : ∀ e, .supply e ∉ ops := by simp [ops]
  have hdraws : (s.history ops).flatMap Moment.draws =
      [⟨.scalar, 0⟩, ⟨.nonce, 64⟩, ⟨.nonce, 88⟩] := rfl
  obtain ⟨hreads, -⟩ := randomness_is_spent_once s ops hops
  rw [hdraws] at hreads
  exact ⟨hops, hreads⟩

end Service

end Pairing
