import Pairing.ExchangeGroup.Lawful
import Pairing.Handshake.Session

/-!
# What a session does

The outcomes of the session's steps, each under the condition that decides it.  A started session that gets
a message fails on an element that is not valid (`finish_of_invalid`), fails on a shared point that is the
identity (`finish_of_identity`), and otherwise ends with the secret of its transcript
(`finish_of_element`).  The responder's one step has the same three outcomes after its scalar was drawn
(`exchange_of_invalid`, `exchange_of_unavailable`, `exchange_of_element`).

A session leaves `started` with its first message (`status_finish_ne_started`), so a session that still
finishes has had no message before (`after_eq_self_of_finish`).
-/

namespace Pairing

open ExchangeGroup

variable {E : Type} [ExchangeGroup E]

/-- The generator of a password and a context. -/
abbrev generatorOf (password : Bytes) (context : Context) : E :=
  ExchangeGroup.generator password context.bytes

/-! ### Elements at the front of messages -/

theorem peerElement_encode_append [FixedLengthGroup E] (p : E) (rest : Bytes) :
    (peerElement (encode p ++ rest) : Except Error E) = decode (encode p) := by
  have hlength : (encode p).length = elementLength E := FixedLengthGroup.length_encode p
  have hlong : ¬ (encode p ++ rest).length < elementLength E := by
    rw [List.length_append, hlength]
    omega
  rw [peerElement, if_neg hlong, List.take_left' hlength]

theorem le_length_of_peerElement {message : Bytes} {p : E} (h : peerElement message = .ok p) :
    elementLength E ≤ message.length := by
  by_cases hl : message.length < elementLength E
  · rw [peerElement, if_pos hl] at h
    cases h
  · omega

theorem Session.ownMessage_opened (role : Role) (password : Bytes) (context : Context)
    (x : Scalar E) : (Session.opened role password context x).ownMessage =
      encode (smul x (generatorOf password context : E)) ++ context.bytes := rfl

theorem Session.take_ownMessage [FixedLengthGroup E] (role : Role) (password : Bytes)
    (context : Context) (x : Scalar E) :
    (Session.opened role password context x).ownMessage.take (elementLength E) =
      encode (smul x (generatorOf password context : E)) :=
  List.take_left' (FixedLengthGroup.length_encode _)

theorem peerElement_of_ne_identity [LawfulExchangeGroup E] {p : E} (h : p ≠ identity)
    (rest : Bytes) : (peerElement (encode p ++ rest) : Except Error E) = .ok p := by
  rw [peerElement_encode_append, LawfulExchangeGroup.decode_encode p h]

theorem peerElement_identity [LawfulExchangeGroup E] (rest : Bytes) :
    ∃ err, (peerElement (encode (identity : E) ++ rest) : Except Error E) = .error err := by
  rw [peerElement_encode_append]
  cases h : (decode (encode (identity : E)) : Except Error E) with
  | error err => exact ⟨err, rfl⟩
  | ok p => exact absurd h (LawfulExchangeGroup.decode_encode_identity p)

theorem Role.done_ne_started (r : Role) : r.done ≠ .started := by
  cases r <;> exact Status.noConfusion

namespace Session

/-! ### Finishing -/

/-- The transcript of a session that has read the element `y` in its peer's message. -/
def transcriptWith (s : Session E) (peer : Bytes) (y : E) : Transcript where
  generator := encode s.generator
  messageA := s.messageA peer
  responderElement := (s.messageB peer).take (elementLength E)
  sharedPoint := encode (smul s.scalar y)

/-- A responder's transcript has its own element in the place of the reply. -/
theorem transcriptWith_opened_responder [FixedLengthGroup E] (password : Bytes) (context : Context)
    (x : Scalar E) (message : Bytes) (y : E) :
    (opened .responder password context x).transcriptWith message y =
      { generator := encode (generatorOf password context : E)
        messageA := message
        responderElement := encode (smul x (generatorOf password context : E))
        sharedPoint := encode (smul x y) } := by
  show Transcript.mk _ _ (List.take _ (opened .responder password context x).ownMessage) _ = _
  rw [take_ownMessage]
  rfl

/-- The bytes of a responder's transcript. -/
theorem toBytes_transcriptWith_opened_responder [FixedLengthGroup E] (password : Bytes)
    (context : Context) (x : Scalar E) (message : Bytes) (y : E) :
    ((opened .responder password context x).transcriptWith message y).toBytes =
      Transcript.label ++ encode (generatorOf password context : E) ++
        Bytes.lengthPrefixed 8 message ++ encode (smul x (generatorOf password context : E)) ++
        encode (smul x y) := by
  rw [transcriptWith_opened_responder, Transcript.toBytes]

variable {s : Session E} {peer : Bytes}

theorem finish_of_invalid {err : Error} (hs : s.status = .started)
    (h : (peerElement peer : Except Error E) = .error err) :
    s.finish peer = (.error err, s.closed .failed) := by
  rw [finish, if_pos hs, transcript, sharedPoint, h]

theorem finish_of_identity {y : E} (hs : s.status = .started) (h : peerElement peer = .ok y)
    (hz : isIdentity (smul s.scalar y) = true) :
    s.finish peer = (.error .sharedIdentity, s.closed .failed) := by
  rw [finish, if_pos hs, transcript, sharedPoint, h]
  simp only [hz, if_true]

theorem finish_of_element {y : E} (hs : s.status = .started) (h : peerElement peer = .ok y)
    (hz : isIdentity (smul s.scalar y) = false) :
    s.finish peer = (.ok (s.transcriptWith peer y).secret, s.closed s.role.done) := by
  rw [finish, if_pos hs, transcript, sharedPoint, h]
  simp only [hz, Bool.false_eq_true, if_false]
  rfl

theorem finish_of_not_started (hs : s.status ≠ .started) :
    s.finish peer = (.error (.finishFrom s.status), s) := by
  rw [finish, if_neg hs]

/-- **A session comes to a secret only from `started`**, on a valid element and a shared point that is not
the identity. -/
theorem finish_eq_ok_iff {k : Secret} :
    (s.finish peer).1 = .ok k ↔ s.status = .started ∧ ∃ y : E, peerElement peer = .ok y ∧
      isIdentity (smul s.scalar y) = false ∧ k = (s.transcriptWith peer y).secret := by
  constructor
  · intro h
    by_cases hs : s.status = .started
    · refine ⟨hs, ?_⟩
      cases hp : (peerElement peer : Except Error E) with
      | error err => rw [finish_of_invalid hs hp] at h; cases h
      | ok y =>
        cases hz : isIdentity (smul s.scalar y) with
        | true => rw [finish_of_identity hs hp hz] at h; cases h
        | false =>
          rw [finish_of_element hs hp hz] at h
          exact ⟨y, rfl, hz, (Except.ok.inj h).symm⟩
    · rw [finish_of_not_started hs] at h
      cases h
  · rintro ⟨hs, y, hp, hz, rfl⟩
    rw [finish_of_element hs hp hz]

/-- **The first message closes a session**, whether or not it leads to a secret. -/
theorem finish_of_started (hs : s.status = .started) (peer : Bytes) :
    (∃ k, s.finish peer = (.ok k, s.closed s.role.done)) ∨
    ∃ err, s.finish peer = (.error err, s.closed .failed) ∧
      ((peerElement peer : Except Error E) = .error err ∨
        err = .sharedIdentity ∧ ∃ y : E, peerElement peer = .ok y) := by
  cases hp : (peerElement peer : Except Error E) with
  | error err => exact Or.inr ⟨err, finish_of_invalid hs hp, Or.inl rfl⟩
  | ok y =>
    cases hz : isIdentity (smul s.scalar y) with
    | true => exact Or.inr ⟨_, finish_of_identity hs hp hz, Or.inr ⟨rfl, y, rfl⟩⟩
    | false => exact Or.inl ⟨_, finish_of_element hs hp hz⟩

theorem exists_closed_of_started (hs : s.status = .started) (peer : Bytes) :
    ∃ status, status ≠ .started ∧ (s.finish peer).2 = s.closed status := by
  rcases finish_of_started hs peer with ⟨k, h⟩ | ⟨err, h, -⟩
  · exact ⟨_, s.role.done_ne_started, congrArg Prod.snd h⟩
  · exact ⟨_, Status.noConfusion, congrArg Prod.snd h⟩

theorem status_finish_ne_started : (s.finish peer).2.status ≠ .started := by
  by_cases hs : s.status = .started
  · obtain ⟨status, hstatus, h⟩ := exists_closed_of_started hs peer
    rw [h]
    exact hstatus
  · rw [finish_of_not_started hs]
    exact hs

/-! ### Messages one after another -/

/-- What is left of a session after these messages, in this order. -/
def after (s : Session E) (messages : List Bytes) : Session E :=
  messages.foldl (fun s message => (s.finish message).2) s

theorem after_concat (s : Session E) (messages : List Bytes) (message : Bytes) :
    s.after (messages ++ [message]) = ((s.after messages).finish message).2 := by
  rw [after, List.foldl_append]
  rfl

/-- What a session answers to these messages, in this order. -/
def answers (s : Session E) : List Bytes → List (Except Error Secret)
  | [] => []
  | message :: messages => (s.finish message).1 :: (s.finish message).2.answers messages

/-- **A session that still finishes has had no message before.** -/
theorem after_eq_self_of_finish {messages : List Bytes} {k : Secret}
    (h : ((s.after messages).finish peer).1 = .ok k) : s.after messages = s := by
  rcases List.eq_nil_or_concat messages with rfl | ⟨earlier, message, rfl⟩
  · rfl
  · have hs := (finish_eq_ok_iff.mp h).1
    rw [List.concat_eq_append, after_concat] at hs
    exact absurd hs status_finish_ne_started

/-! ### Starting and answering -/

variable {password : Bytes} {context : Context} {e e' : Entropy} {message : Bytes}

theorem begin_of_scalar {role : Role} {x : Scalar E} (h : sampleScalar e = (.ok x, e')) :
    begin role password context e = (.ok (opened role password context x), e') := by
  rw [begin, h]

theorem begin_of_unavailable {role : Role} {err : Error}
    (h : sampleScalar (E := E) e = (.error err, e')) :
    (begin role password context e : Except Error (Session E) × Entropy) = (.error err, e') := by
  rw [begin, h]

theorem begin_eq_ok_iff {role : Role} :
    (begin role password context e).1 = .ok s ↔
      ∃ x : Scalar E, (sampleScalar e).1 = .ok x ∧ s = opened role password context x := by
  rcases h : (sampleScalar e : Except Error (Scalar E) × Entropy) with ⟨err | x, e'⟩
  · rw [begin_of_unavailable h]
    simp
  · rw [begin_of_scalar h]
    simp only [Except.ok.injEq, eq_comm, exists_eq_left']

theorem start_of_scalar {x : Scalar E} (h : sampleScalar e = (.ok x, e')) :
    start password context e = (.ok ((opened .initiator password context x).ownMessage,
      opened .initiator password context x), e') := by
  rw [start, begin_of_scalar h]

theorem start_of_unavailable {err : Error} (h : sampleScalar (E := E) e = (.error err, e')) :
    (start password context e : Except Error (Bytes × Session E) × Entropy) = (.error err, e') := by
  rw [start, begin_of_unavailable h]

theorem start_eq_ok_iff :
    (start password context e).1 = .ok (message, s) ↔ ∃ x : Scalar E, (sampleScalar e).1 = .ok x ∧
      s = opened .initiator password context x ∧ message = s.ownMessage := by
  rcases h : (sampleScalar e : Except Error (Scalar E) × Entropy) with ⟨err | x, e'⟩
  · rw [start_of_unavailable h]
    simp
  · rw [start_of_scalar h]
    simp only [Except.ok.injEq, Prod.mk.injEq]
    constructor
    · rintro ⟨rfl, rfl⟩
      exact ⟨x, rfl, rfl, rfl⟩
    · rintro ⟨_, rfl, rfl, rfl⟩
      exact ⟨rfl, rfl⟩

theorem exchange_of_invalid {err : Error} (h : (peerElement message : Except Error E) = .error err) :
    exchange E password context message e = (.error err, e) := by
  rw [exchange, h]

theorem exchange_of_unavailable {y : E} {err : Error} (h : peerElement message = .ok y)
    (hx : sampleScalar (E := E) e = (.error err, e')) :
    exchange E password context message e = (.error err, e') := by
  rw [exchange, h, begin_of_unavailable hx]

/-- A message whose element is accepted is answered with the scalar that is drawn for it. -/
theorem exchange_of_scalar {y : E} {x : Scalar E} (h : peerElement message = .ok y)
    (hx : sampleScalar e = (.ok x, e')) :
    exchange E password context message e =
      (((opened .responder password context x).finish message).1.map fun k =>
        ((opened .responder password context x).ownMessage, k), e') := by
  rw [exchange, h, begin_of_scalar hx]
  cases hk : ((opened .responder password context x).finish message).1 with
  | error err =>
    simp only [hk]
    rfl
  | ok k =>
    simp only [hk]
    rfl

theorem exchange_of_identity {y : E} {x : Scalar E} (h : peerElement message = .ok y)
    (hx : sampleScalar e = (.ok x, e')) (hz : isIdentity (smul x y) = true) :
    exchange E password context message e = (.error .sharedIdentity, e') := by
  rw [exchange_of_scalar h hx, finish_of_identity rfl h hz]
  rfl

theorem exchange_of_element {y : E} {x : Scalar E} (h : peerElement message = .ok y)
    (hx : sampleScalar e = (.ok x, e')) (hz : isIdentity (smul x y) = false) :
    exchange E password context message e =
      (.ok ((opened .responder password context x).ownMessage,
        ((opened .responder password context x).transcriptWith message y).secret), e') := by
  rw [exchange_of_scalar h hx, finish_of_element rfl h hz]
  rfl

/-- **A responder answers** exactly on a valid element, with a scalar drawn, and a shared point that is not
the identity. -/
theorem exchange_eq_ok_iff {reply : Bytes} {k : Secret} :
    (exchange E password context message e).1 = .ok (reply, k) ↔
      ∃ (y : E) (x : Scalar E), peerElement message = .ok y ∧ (sampleScalar e).1 = .ok x ∧
        isIdentity (smul x y) = false ∧
        reply = (opened .responder password context x).ownMessage ∧
        k = ((opened .responder password context x).transcriptWith message y).secret := by
  constructor
  · intro h
    cases hp : (peerElement message : Except Error E) with
    | error err => rw [exchange_of_invalid hp] at h; cases h
    | ok y =>
      rcases hx : (sampleScalar e : Except Error (Scalar E) × Entropy) with ⟨err | x, e'⟩
      · rw [exchange_of_unavailable hp hx] at h; cases h
      · cases hz : isIdentity (smul x y) with
        | true => rw [exchange_of_identity hp hx hz] at h; cases h
        | false =>
          rw [exchange_of_element hp hx hz] at h
          cases h
          exact ⟨y, x, rfl, rfl, hz, rfl, rfl⟩
  · rintro ⟨y, x, hp, hx, hz, rfl, rfl⟩
    rw [exchange_of_element hp (Prod.ext hx rfl) hz]

end Session

end Pairing
