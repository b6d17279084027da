import Pairing.Proofs.Handshake.Lifecycle
import Pairing.Proofs.Registry.Candidates
import Pairing.Proofs.Service.Interleaving

/-!
# What a registry holds

A service is `Orderly` if its registry is within its limit and holds only initiators that wait for their
reply, none of them from the future.  A new service is, and so is what any operation leaves of one, unless
it inserts a session of a caller's own (`orderly_next`, `orderly_run`).

A start that is answered adds one entry to those that have not expired (`registry_of_start`).  Its handle is
free among those; it can be that of a session which has expired and makes room for it
(`expired_handle_is_given_again`).  As a session that waits is never in the wrong state, a call of `finish` can
only miss its session (`invalidState_of_finish`).
-/

namespace Pairing

namespace Registry

variable {S : Type} {r : Registry S} {x : S} {now : Time} {e : Entropy}

theorem size_filter_le (r : Registry S) (keep : Entry S → Bool) : (r.filter keep).size ≤ r.size :=
  List.length_filter_le _ _

/-- An insertion stays within the limit. -/
theorem size_insert_le (h : r.size ≤ r.limits.maxSessions) :
    (r.insert x now e).2.1.size ≤ r.limits.maxSessions := by
  have hpurged : (r.purged now).size ≤ r.limits.maxSessions := Nat.le_trans (size_filter_le r _) h
  rcases r.insert_cases x now e with ⟨-, hr⟩ | ⟨-, err, e', -, hr⟩ | ⟨hroom, k, e', hfree, -, hr⟩
  · rw [hr]
    exact hpurged
  · rw [hr]
    exact hpurged
  · rw [hr]
    show ((r.purged now).entries ++ [(⟨k, x, now⟩ : Entry S)]).length ≤ _
    rw [List.length_append]
    exact hroom

theorem mem_entries_insert {y : Entry S} (hy : y ∈ (r.insert x now e).2.1.entries) :
    y ∈ r.entries ∨ y.session = x ∧ y.createdAt = now := by
  rcases r.insert_error_or_ok x now e with ⟨err, -, hr⟩ | ⟨k, hfree, -, hr⟩
  · rw [hr] at hy
    exact Or.inl (List.mem_filter.mp hy).1
  · rw [hr] at hy
    rcases List.mem_append.mp hy with hy | hy
    · exact Or.inl (List.mem_filter.mp hy).1
    · rw [List.mem_singleton.mp hy]
      exact Or.inr ⟨rfl, rfl⟩

end Registry

namespace Service

open ExchangeGroup

variable {E : Type} [ExchangeGroup E]

/-! ### The invariant -/

/-- The registry is within its limit, and holds only initiators that wait for their reply. -/
structure Orderly (s : Service E) : Prop where
  size_le : s.registry.size ≤ s.registry.limits.maxSessions
  role : ∀ x ∈ s.registry.entries, x.session.role = .initiator
  status : ∀ x ∈ s.registry.entries, x.session.status = .started
  createdAt_le : ∀ x ∈ s.registry.entries, x.createdAt ≤ s.now

theorem orderly_new (config : Config) (e : Entropy) : (new E config e).Orderly :=
  ⟨Nat.zero_le _, List.forall_mem_nil _, List.forall_mem_nil _, List.forall_mem_nil _⟩

/-- What drops entries, and nothing else, keeps a service orderly. -/
theorem orderly_filter {s t : Service E} (h : s.Orderly) {keep : Registry.Entry (Session E) → Bool}
    (hregistry : t.registry = s.registry.filter keep) (hnow : s.now ≤ t.now) : t.Orderly := by
  have hmem : ∀ x ∈ t.registry.entries, x ∈ s.registry.entries := by
    rw [hregistry]
    intro x hx
    exact (List.mem_filter.mp hx).1
  refine ⟨?_, fun x hx => h.role x (hmem x hx), fun x hx => h.status x (hmem x hx),
    fun x hx => Nat.le_trans (h.createdAt_le x (hmem x hx)) hnow⟩
  rw [hregistry]
  exact Nat.le_trans (Registry.size_filter_le _ _) h.size_le

/-- The session of a start is an initiator's and waits. -/
theorem waiting_of_brought {m : Moment E} {x : Session E} (hm : ∀ y, m.operation ≠ .insert y)
    (hx : m.brought = some x) : x.role = .initiator ∧ x.status = .started := by
  obtain ⟨s, op⟩ := m
  cases op with
  | start q =>
    obtain ⟨⟨message, y⟩, hy, rfl⟩ := Option.map_eq_some_iff.mp hx
    obtain ⟨z, -, rfl, -⟩ := Session.start_eq_ok_iff.mp (toOption_eq_some_iff.mp hy)
    exact ⟨rfl, rfl⟩
  | insert y => exact absurd rfl (hm y)
  | _ => cases hx

/-- **Each operation keeps a service orderly**, if it brings no session from elsewhere. -/
theorem orderly_next {m : Moment E} (hm : ∀ y, m.operation ≠ .insert y) (h : m.service.Orderly) :
    m.next.Orderly := by
  cases m.effect with
  | inserted x e brought _ _ _ registry =>
    obtain ⟨hrole, hstatus⟩ := waiting_of_brought hm brought
    have hmem : ∀ y ∈ m.next.registry.entries,
        y ∈ m.service.registry.entries ∨ y.session = x ∧ y.createdAt = m.time := by
      rw [registry]
      intro y hy
      exact Registry.mem_entries_insert hy
    refine ⟨?_, ?_, ?_, ?_⟩
    · rw [m.limits_next, registry]
      exact Registry.size_insert_le h.size_le
    · intro y hy
      rcases hmem y hy with hy | ⟨rfl, -⟩
      · exact h.role y hy
      · exact hrole
    · intro y hy
      rcases hmem y hy with hy | ⟨rfl, -⟩
      · exact h.status y hy
      · exact hstatus
    · intro y hy
      rcases hmem y hy with hy | ⟨-, hy⟩
      · exact Nat.le_trans (h.createdAt_le y hy) m.time_le_now_next
      · rw [hy]
        exact m.time_le_now_next
  | erased k _ _ _ registry => exact orderly_filter h registry m.time_le_now_next
  | purged _ _ _ registry => exact orderly_filter h registry m.time_le_now_next
  | kept _ _ _ registry =>
    refine ⟨?_, ?_, ?_, ?_⟩
    · rw [registry]
      exact h.size_le
    · rw [registry]
      exact h.role
    · rw [registry]
      exact h.status
    · rw [registry]
      intro y hy
      exact Nat.le_trans (h.createdAt_le y hy) m.time_le_now_next

theorem orderly_run {s : Service E} {ops : List (Operation E)} (hops : ∀ x, .insert x ∉ ops)
    (h : s.Orderly) : (s.run ops).Orderly := by
  induction ops generalizing s with
  | nil => exact h
  | cons op ops ih =>
    obtain ⟨hop, hops⟩ := of_forall_not_mem_cons hops
    exact ih hops (orderly_next (m := ⟨s, op⟩) hop h)

/-! ### Starts and calls of `finish` -/

/-- **An answered start adds one entry**, under a handle that no session has which is still alive. -/
theorem registry_of_start {s : Service E} {q : StartRequest} {a : StartResponse}
    (h : (s.start q).1 = .ok a) :
    ∃ (x : Session E) (hfree : a.session ∉ (s.registry.purged s.now).handles),
      (s.start q).2.registry = (s.registry.purged s.now).push ⟨a.session, x, s.now⟩ hfree ∧
      a.messageA = Transport.encode x.ownMessage := by
  obtain ⟨y, ⟨hgiven, hbrought⟩, hmessage⟩ := issues_of_start h
  obtain ⟨x, e, hx, hinsert, hregistry⟩ := Moment.exists_insert_of_given hgiven
  cases hx.symm.trans hbrought
  change (s.registry.insert _ s.now e).1 = _ at hinsert
  change (s.start q).2.registry = (s.registry.insert _ s.now e).2.1 at hregistry
  rcases s.registry.insert_error_or_ok _ s.now e with ⟨err, herr, -⟩ | ⟨k, hfree, hk, hpush⟩
  · cases herr.symm.trans hinsert
  · cases hk.symm.trans hinsert
    exact ⟨_, hfree, hregistry.trans hpush, hmessage⟩

open Ristretto

theorem kind_of_finishSession {x : Session Element} (hx : x.status = .started) {text : String}
    {err : Error} (h : finishSession x text = .error err) : err.kind ≠ .invalidState := by
  rw [finishSession] at h
  cases hmessage : Transport.decode text with
  | error cause =>
    rw [hmessage] at h
    cases h
    obtain ⟨rfl, -⟩ := Transport.decode_eq_error_iff.mp hmessage
    exact ErrorKind.noConfusion
  | ok message =>
    rw [hmessage] at h
    rcases Session.first_finish hx message with ⟨⟨k, hk⟩, -⟩ | ⟨⟨cause, hcause, hkind⟩, -⟩
    · simp only [hk] at h
      cases h
    · simp only [hcause] at h
      cases h
      show cause.kind ≠ .invalidState
      rw [hkind]
      split
      · exact ErrorKind.noConfusion
      · exact ErrorKind.noConfusion

/-- **A call of `finish` is never in the wrong state**, but for a session that is not there. -/
theorem invalidState_of_finish {s : Service Element} (hs : s.Orderly) {q : FinishRequest} {err : Error}
    (h : (s.finish q).1 = .error err) (hkind : err.kind = .invalidState) :
    err = .unknownSession q.session ∨ err = .sessionExpired q.session := by
  cases hx : s.registry.find? q.session with
  | none =>
    rw [finish_of_none hx] at h
    cases h
    exact Or.inl rfl
  | some x =>
    cases hexpired : x.isExpired s.registry.limits s.now with
    | true =>
      rw [finish_of_expired hx hexpired] at h
      cases h
      exact Or.inr rfl
    | false =>
      rw [finish_of_live hx hexpired] at h
      have hwaits := hs.status x (Registry.find?_eq_some_iff.mp hx).1
      exact absurd hkind (kind_of_finishSession hwaits h)

/-- **The registry holds sessions that wait**, as many as its limit allows.  After any operations that bring
no session from elsewhere, each registered session is an initiator's, still waits, and is not from the
future.  An answered start leaves the sessions whose age has not reached the time limit as they are and adds
one, whose message is the text that is sent, under a handle that none of the others has.  A call of `finish`
fails in the wrong state only because its session is unknown or has expired. -/
theorem registry_holds_waiting_sessions (config : Config) (e : Entropy)
    (ops : List (Operation Element)) (hops : ∀ x, .insert x ∉ ops) :
    let s := (new Element config e).run ops
    s.registry.size ≤ config.limits.maxSessions ∧
    (∀ x ∈ s.registry.entries, x.session.role = .initiator ∧ x.session.status = .started ∧
      x.createdAt ≤ s.now) ∧
    (∀ q a, (s.start q).1 = .ok a → ∃ x : Session Element,
      let left := s.registry.entries.filter fun y => s.now - y.createdAt < config.limits.timeToLive
      (∀ y ∈ left, y.handle ≠ a.session) ∧
      (s.start q).2.registry.entries = left ++ [⟨a.session, x, s.now⟩] ∧
      Transport.decode a.messageA = .ok x.ownMessage) ∧
    ∀ q err, (s.finish q).1 = .error err → err.kind = .invalidState →
      err = .unknownSession q.session ∨ err = .sessionExpired q.session := by
  intro s
  have hs : s.Orderly := orderly_run hops (orderly_new config e)
  have hsize := hs.size_le
  rw [limits_run] at hsize
  refine ⟨hsize, ?_, ?_, ?_⟩
  · intro x hx
    exact ⟨hs.role x hx, hs.status x hx, hs.createdAt_le x hx⟩
  · intro q a ha
    obtain ⟨x, hfree, hregistry, hmessage⟩ := registry_of_start ha
    refine ⟨x, ?_⟩
    intro left
    have hleft : (s.registry.purged s.now).entries = left := by
      rw [Registry.entries_purged, limits_run]
      rfl
    refine ⟨?_, ?_, ?_⟩
    · intro y hy hhandle
      rw [Registry.handles, hleft] at hfree
      exact hfree (hhandle ▸ List.mem_map_of_mem hy)
    · rw [← hleft, hregistry]
      rfl
    · rw [hmessage, Transport.decode_encode]
  · intro q err herr hkind
    exact invalidState_of_finish hs herr hkind

/-- A service whose source holds 160 zeros has started once, and the time limit of that session is up. -/
def overdue : Service Element :=
  (new Element {} ⟨fun _ => 0, 160, 0⟩).run [.start ⟨"p", none⟩, .advance (.ofSeconds 300)]

theorem overdue_eq : ∃ x : Session Element,
    overdue.registry.entries = [⟨⟨0, by decide⟩, x, 0⟩] ∧ overdue.registry.limits = {} ∧
    overdue.now = .ofSeconds 300 ∧ overdue.entropy = ⟨fun _ => 0, 160, 80⟩ := by
  let s : Service Element := new Element {} ⟨fun _ => 0, 160, 0⟩
  have hy := sampleScalar_of_supply (e := s.entropy) (by decide)
  have hstart := start_of_free (q := ⟨"p", none⟩) hy (by decide) (by decide) List.not_mem_nil
  have hhandle : Registry.candidate ⟨fun _ => 0, 160, 64⟩ 64 = ⟨0, by decide⟩ := by decide
  have hs : overdue = (s.start ⟨"p", none⟩).2.advance (.ofSeconds 300) := rfl
  let x : Session Element := Session.opened .initiator (Bytes.ofText "p") .empty
    (Scalar.ofUniform (s.entropy.slice 0 64))
  rw [hs, hstart]
  refine ⟨x, ?_, rfl, Nat.zero_add _, rfl⟩
  show [(⟨Registry.candidate ⟨fun _ => 0, 160, 64⟩ 64, x, 0⟩ : Registry.Entry _)] = _
  rw [hhandle]

theorem start_overdue : (overdue.registry.purged overdue.now).entries = [] ∧
    ∃ a, (overdue.start ⟨"p", none⟩).1 = .ok a ∧ a.session = ⟨0, by decide⟩ := by
  obtain ⟨x, hentries, hlimits, hnow, hentropy⟩ := overdue_eq
  have hpurged : (overdue.registry.purged overdue.now).entries = [] := by
    show overdue.registry.entries.filter (fun x => !x.isExpired overdue.registry.limits overdue.now) = []
    rw [hentries, hlimits, hnow]
    rfl
  have hused : overdue.entropy.used = 80 := congrArg Entropy.used hentropy
  have hsupply : overdue.entropy.supply = 160 := congrArg Entropy.supply hentropy
  have hcandidate : overdue.entropy.used + 64 + 16 ≤ overdue.entropy.supply := by omega
  have hy := sampleScalar_of_supply (e := overdue.entropy) (Nat.le_of_add_right_le hcandidate)
  have hroom : (overdue.registry.purged overdue.now).size < overdue.registry.limits.maxSessions := by
    rw [Registry.size, hpurged, hlimits]
    decide
  have hfree : Registry.candidate { overdue.entropy with used := overdue.entropy.used + 64 }
      (overdue.entropy.used + 64) ∉ (overdue.registry.purged overdue.now).handles := by
    rw [Registry.handles, hpurged]
    exact List.not_mem_nil
  have hstart := start_of_free (q := ⟨"p", none⟩) hy hroom hcandidate hfree
  refine ⟨hpurged, _, congrArg Prod.fst hstart, ?_⟩
  show Registry.candidate { overdue.entropy with used := overdue.entropy.used + 64 } _ = _
  rw [hentropy]
  decide

/-- The session is still there; the next start drops it and adds its own. -/
theorem overdue_session_makes_room :
    overdue.registry.size = 1 ∧ ∃ a x, (overdue.start ⟨"p", none⟩).1 = .ok a ∧
      (overdue.start ⟨"p", none⟩).2.registry.entries = [⟨a.session, x, .ofSeconds 300⟩] ∧
      Transport.decode a.messageA = .ok x.ownMessage := by
  obtain ⟨y, hentries, hlimits, hnow, -⟩ := overdue_eq
  obtain ⟨hpurged, a, ha, -⟩ := start_overdue
  rw [Registry.entries_purged, hlimits] at hpurged
  obtain ⟨-, -, hstart, -⟩ := registry_holds_waiting_sessions {} ⟨fun _ => 0, 160, 0⟩
    [.start ⟨"p", none⟩, .advance (.ofSeconds 300)] (by simp)
  obtain ⟨x, -, hadded, hmessage⟩ := hstart ⟨"p", none⟩ a ha
  refine ⟨congrArg List.length hentries, a, x, ha, ?_, hmessage⟩
  calc
    (overdue.start ⟨"p", none⟩).2.registry.entries =
        overdue.registry.entries.filter
            (fun y => overdue.now - y.createdAt < ({} : Registry.Limits).timeToLive) ++
          [(⟨a.session, x, overdue.now⟩ : Registry.Entry _)] := hadded
    _ = [⟨a.session, x, .ofSeconds 300⟩] := by rw [hpurged, hnow, List.nil_append]

/-- And it gives out a handle that is still registered. -/
theorem expired_handle_is_given_again :
    ∃ a, (overdue.start ⟨"p", none⟩).1 = .ok a ∧ a.session ∈ overdue.registry.handles := by
  obtain ⟨x, hentries, -, -, -⟩ := overdue_eq
  obtain ⟨-, a, ha, hsession⟩ := start_overdue
  refine ⟨a, ha, ?_⟩
  rw [hsession, Registry.handles, hentries]
  exact List.mem_singleton.mpr rfl

end Service

end Pairing
