import Pairing.Proofs.Handshake.Session
import Pairing.Proofs.Registry.Candidates
import Pairing.Proofs.Transport
import Pairing.Service.Basic

/-!
# One operation of a service

What the operations answer and what they leave, in terms of the handshake and the registry.

* A start has its session first and then registers it (`start_of_error`, `start_of_ok`); it succeeds if
  there is room and a free handle (`start_of_free`, `start_of_room`).
* An exchange answers as the responder does and leaves the registry alone (`exchange_eq_ok_iff`,
  `exchange_snd`).
* A `finish` takes the handle out in any case (`finish_snd_eq`) and answers by what was found under it
  (`finish_of_none`, `finish_of_expired`, `finish_of_live`).
-/

namespace Pairing.Service

open ExchangeGroup

variable {E : Type} [ExchangeGroup E] {s : Service E}

/-! ### Registering and starting -/

theorem register_eq (s : Service E) (x : Session E) :
    s.register x = ((s.registry.insert x s.now s.entropy).1,
      { s with
        registry := (s.registry.insert x s.now s.entropy).2.1
        entropy := (s.registry.insert x s.now s.entropy).2.2 }) := rfl

section Start

variable {q : StartRequest} {e : Entropy}

theorem start_of_error {err : Pairing.Error}
    (h : Session.start (Bytes.ofText q.password) (contextOf q.context) s.entropy =
      ((.error err : Except Pairing.Error (Bytes × Session E)), e)) :
    s.start q = (.error (.pairing err), { s with entropy := e }) := by
  rw [start, h]

/-- A start that has its scalar registers its session at the present time. -/
theorem start_of_ok {message : Bytes} {x : Session E}
    (h : Session.start (Bytes.ofText q.password) (contextOf q.context) s.entropy =
      (.ok (message, x), e)) :
    s.start q = (((s.registry.insert x s.now e).1.map fun k => ⟨Transport.encode message, k⟩),
      { s with
        registry := (s.registry.insert x s.now e).2.1
        entropy := (s.registry.insert x s.now e).2.2 }) := by
  rw [start, h]
  simp only [register_eq]
  cases (s.registry.insert x s.now e).1 with
  | error err => rfl
  | ok k => rfl

theorem messageA_of_session {message : Bytes} {x : Session E} {a : StartResponse}
    (h : Session.start (Bytes.ofText q.password) (contextOf q.context) s.entropy =
      (.ok (message, x), e))
    (ha : (s.start q).1 = .ok a) : a.messageA = Transport.encode message := by
  rw [start_of_ok h] at ha
  cases hk : (s.registry.insert x s.now e).1 with
  | error err =>
    rw [hk] at ha
    cases ha
  | ok k =>
    rw [hk] at ha
    cases ha
    rfl

/-- The whole outcome of a start that has its scalar, room in the registry and a free candidate. -/
theorem start_of_free {y : Scalar E} (hy : sampleScalar s.entropy = (.ok y, e))
    (hroom : (s.registry.purged s.now).size < s.registry.limits.maxSessions)
    (he : e.used + 16 ≤ e.supply)
    (hfree : Registry.candidate e e.used ∉ (s.registry.purged s.now).handles) :
    let x := Session.opened .initiator (Bytes.ofText q.password) (contextOf q.context) y
    s.start q = (.ok ⟨Transport.encode x.ownMessage, Registry.candidate e e.used⟩,
      { s with
        registry := (s.registry.purged s.now).push ⟨Registry.candidate e e.used, x, s.now⟩ hfree
        entropy := { e with used := e.used + 16 } }) := by
  intro x
  obtain ⟨hfree', hinsert⟩ := Registry.insert_of_drawn (x := x) (Nat.not_le.mpr hroom)
    (Registry.drawHandle_of_free he hfree)
  rw [start_of_ok (Session.start_of_scalar hy), hinsert]
  rfl

/-- A start succeeds if it has its scalar, and the registry has room and a free handle. -/
theorem start_of_room {y : Scalar E} (hy : sampleScalar s.entropy = (.ok y, e))
    (hroom : (s.registry.purged s.now).size < s.registry.limits.maxSessions)
    (he : e.used + 16 ≤ e.supply)
    (hfree : Handle.ofBlock (e.slice e.used 16) ∉ (s.registry.purged s.now).handles) :
    (s.start q).1 = .ok ⟨Transport.encode (Session.opened .initiator (Bytes.ofText q.password)
      (contextOf q.context) y).ownMessage, Handle.ofBlock (e.slice e.used 16)⟩ :=
  congrArg Prod.fst (start_of_free hy hroom he hfree)

theorem now_start (s : Service E) (q : StartRequest) : (s.start q).2.now = s.now := by
  rcases hstart : (Session.start (Bytes.ofText q.password) (contextOf q.context) s.entropy :
    Except Pairing.Error (Bytes × Session E) × Entropy) with ⟨err | ⟨message, x⟩, e⟩
  · rw [start_of_error hstart]
  · rw [start_of_ok hstart]

end Start

/-! ### Exchanging and sealing -/

theorem exchange_eq_ok_iff {p : ExchangeRequest} {b : ExchangeResponse}
    {message : Bytes} (hmessage : p.messageA = Transport.encode message) :
    (s.exchange p).1 = .ok b ↔
      ∃ reply k, (Session.exchange E (Bytes.ofText p.password) (contextOf p.context) message
        s.entropy).1 = .ok (reply, k) ∧ b = ⟨Transport.encode reply, k.deriveKey⟩ := by
  rw [exchange, hmessage, Transport.decode_encode]
  rcases hanswer : Session.exchange E (Bytes.ofText p.password) (contextOf p.context) message
    s.entropy with ⟨err | ⟨reply, k⟩, e⟩
  · simp only [hanswer]
    constructor
    · intro h
      cases h
    · rintro ⟨reply, k, h, -⟩
      cases h
  · simp only [hanswer]
    constructor
    · intro h
      cases h
      exact ⟨reply, k, rfl, rfl⟩
    · rintro ⟨reply', k', h, rfl⟩
      cases h
      rfl

theorem exchange_snd (s : Service E) (q : ExchangeRequest) :
    ∃ e, (s.exchange q).2 = { s with entropy := e } := by
  rw [exchange]
  cases Transport.decode q.messageA with
  | error err => exact ⟨s.entropy, rfl⟩
  | ok message =>
    rcases hanswer : Session.exchange E (Bytes.ofText q.password) (contextOf q.context) message
      s.entropy with ⟨err | answer, e⟩
    · simp only [hanswer]
      exact ⟨e, rfl⟩
    · simp only [hanswer]
      exact ⟨e, rfl⟩

theorem sealText_snd (s : Service E) (q : SealRequest) :
    ∃ e, (s.sealText q).2 = { s with entropy := e } := by
  rw [sealText]
  cases Key.ofBytes q.key with
  | error err => exact ⟨s.entropy, rfl⟩
  | ok key =>
    rcases hsealed : key.sealBytes (Bytes.ofText q.plaintext) s.entropy with ⟨err | m, e⟩
    · simp only [hsealed]
      exact ⟨e, rfl⟩
    · simp only [hsealed]
      exact ⟨e, rfl⟩

/-! ### Taking and finishing -/

theorem take_snd_eq (s : Service E) (h : Handle) :
    (s.take h).2 = { s with registry := s.registry.erase h } := by
  show ({ s with registry := (s.registry.take h s.now).2 } : Service E) = _
  rw [Registry.take_snd]

/-- **A call of `finish` takes its session out of the registry**, and does nothing else to the
service. -/
theorem finish_snd_eq (s : Service E) (q : FinishRequest) :
    (s.finish q).2 = { s with registry := s.registry.erase q.session } := by
  rw [← take_snd_eq, finish]
  rcases s.take q.session with ⟨err | x, t⟩
  · rfl
  · rfl

theorem finish_fst_of_error {q : FinishRequest} {err : Error}
    (h : (s.registry.take q.session s.now).1 = .error err) : (s.finish q).1 = .error err := by
  have htake : (s.take q.session).1 = .error err := h
  rw [finish, ← Prod.eta (s.take q.session), htake]

theorem finish_fst_of_ok {q : FinishRequest} {x : Session E}
    (h : (s.registry.take q.session s.now).1 = .ok x) :
    (s.finish q).1 = finishSession x q.messageB := by
  have htake : (s.take q.session).1 = .ok x := h
  rw [finish, ← Prod.eta (s.take q.session), htake]

section Finish

variable {q : FinishRequest} {x : Registry.Entry (Session E)}

theorem finish_of_none (hs : s.registry.find? q.session = none) :
    s.finish q = (.error (.unknownSession q.session), s) := by
  apply Prod.ext
  · apply finish_fst_of_error
    rw [Registry.take_of_none hs]
  · rw [finish_snd_eq, Registry.erase_of_find?_eq_none hs]

theorem finish_of_expired (hx : s.registry.find? q.session = some x)
    (hexpired : x.isExpired s.registry.limits s.now = true) :
    (s.finish q).1 = .error (.sessionExpired q.session) := by
  apply finish_fst_of_error
  rw [Registry.take_of_expired hx hexpired]

theorem finish_of_live (hx : s.registry.find? q.session = some x)
    (hexpired : x.isExpired s.registry.limits s.now = false) :
    (s.finish q).1 = finishSession x.session q.messageB := by
  apply finish_fst_of_ok
  rw [Registry.take_of_live hx hexpired]

end Finish

/-- Reading the peer's text, finishing the session on it and deriving the key; the first failure is the
answer. -/
theorem finishSession_eq (x : Session E) (text : String) :
    finishSession x text =
      ((Transport.decode text).bind fun message =>
        (x.finish message).1.map fun k => FinishResponse.mk k.deriveKey).mapError .pairing := by
  rw [finishSession]
  cases Transport.decode text with
  | error err => rfl
  | ok message =>
    show _ = Except.mapError _ ((x.finish message).1.map _)
    cases hk : (x.finish message).1 with
    | error err =>
      simp only [hk]
      rfl
    | ok k =>
      simp only [hk]
      rfl

theorem finishSession_of_ok {x : Session E} {message : Bytes} {k : Secret}
    (h : (x.finish message).1 = .ok k) :
    finishSession x (Transport.encode message) = .ok ⟨k.deriveKey⟩ := by
  rw [finishSession, Transport.decode_encode]
  simp only [h]

end Pairing.Service
