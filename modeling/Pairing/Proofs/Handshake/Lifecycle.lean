import Pairing.Proofs.Handshake.Matching

/-!
# One answer to a session

A session that has had a message only repeats in which status it is (`answers_of_not_started`), so of any
messages at most the first leads to a secret (`countP_isOk_answers_le_one`).  What a session holds is
`Held`: either it waits, and its own message is that of its scalar and generator, or it is done and has
neither.  A call of `finish` keeps that (`held_finish`), and with it all that a peer knows of the session
(`sameParty_finish`).

Over ristretto255 an element is refused by its length or by what it encodes, each with an error of its own
kind (`kind_of_peerElement`); with the kinds of the other failures, `session_is_single_use`.
-/

namespace Pairing

open ExchangeGroup

namespace Session

variable {E : Type} [ExchangeGroup E] {s : Session E}

/-! ### Calls after the first -/

theorem after_of_not_started (hs : s.status ≠ .started) (messages : List Bytes) :
    s.after messages = s := by
  induction messages with
  | nil => rfl
  | cons message messages ih =>
    show (s.finish message).2.after messages = s
    rw [finish_of_not_started hs]
    exact ih

theorem answers_of_not_started (hs : s.status ≠ .started) (messages : List Bytes) :
    s.answers messages = messages.map fun _ => .error (.finishFrom s.status) := by
  induction messages with
  | nil => rfl
  | cons message messages ih =>
    rw [answers, List.map_cons, finish_of_not_started hs, ih]

theorem after_cons (s : Session E) (message : Bytes) (messages : List Bytes) :
    s.after (message :: messages) = (s.finish message).2 :=
  after_of_not_started status_finish_ne_started messages

/-- **Only the first call is answered**; all others name the status that it left. -/
theorem answers_cons (s : Session E) (message : Bytes) (messages : List Bytes) :
    s.answers (message :: messages) = (s.finish message).1 ::
      messages.map fun _ => .error (.finishFrom (s.finish message).2.status) := by
  rw [answers, answers_of_not_started status_finish_ne_started]

theorem countP_isOk_answers_le_one (s : Session E) (messages : List Bytes) :
    (s.answers messages).countP Except.isOk ≤ 1 := by
  cases messages with
  | nil => exact Nat.zero_le 1
  | cons message messages =>
    have hrest : (messages.map fun _ => (Except.error (.finishFrom (s.finish message).2.status) :
        Except Error Secret)).countP Except.isOk = 0 := by
      rw [List.countP_map, List.countP_eq_zero]
      intro message _
      exact Bool.false_ne_true
    rw [answers_cons, List.countP_cons, hrest]
    split
    · exact Nat.le_refl 1
    · exact Nat.zero_le 1

/-! ### What a session holds -/

/-- A session waits with its scalar and generator, whose multiple it has sent, or it is done and holds
neither. -/
inductive Held (s : Session E) : Prop
  | waiting (status : s.status = .started)
      (ownMessage : s.ownMessage = encode (smul s.scalar s.generator) ++ s.context.bytes)
  | cleared (isTerminal : s.status.isTerminal = true) (scalar : s.scalar = zero)
      (generator : s.generator = identity)

theorem held_opened (role : Role) (password : Bytes) (context : Context) (x : Scalar E) :
    (opened role password context x).Held := .waiting rfl rfl

theorem held_finish (h : s.Held) (peer : Bytes) : (s.finish peer).2.Held := by
  by_cases hs : s.status = .started
  · obtain ⟨status, hstatus, hclosed⟩ := exists_closed_of_started hs peer
    rw [hclosed]
    exact .cleared (bne_iff_ne.mpr hstatus) rfl rfl
  · rw [finish_of_not_started hs]
    exact h

/-- The parts of a session that no call changes. -/
structure SameParty (s t : Session E) : Prop where
  role : t.role = s.role
  context : t.context = s.context
  ownMessage : t.ownMessage = s.ownMessage

theorem sameParty_finish (s : Session E) (peer : Bytes) : s.SameParty (s.finish peer).2 := by
  by_cases hs : s.status = .started
  · obtain ⟨status, -, hclosed⟩ := exists_closed_of_started hs peer
    rw [hclosed]
    exact ⟨rfl, rfl, rfl⟩
  · rw [finish_of_not_started hs]
    exact ⟨rfl, rfl, rfl⟩

theorem held_after (h : s.Held) (messages : List Bytes) : (s.after messages).Held := by
  cases messages with
  | nil => exact h
  | cons message messages =>
    rw [after_cons]
    exact held_finish h message

theorem sameParty_after (s : Session E) (messages : List Bytes) :
    s.SameParty (s.after messages) := by
  cases messages with
  | nil => exact ⟨rfl, rfl, rfl⟩
  | cons message messages =>
    rw [after_cons]
    exact sameParty_finish s message

/-- A responder's element can be cut from its message whenever there is a shared point. -/
theorem le_length_messageB {peer : Bytes} {z : E} (hown : elementLength E ≤ s.ownMessage.length)
    (h : s.sharedPoint peer = .ok z) : elementLength E ≤ (s.messageB peer).length := by
  rw [sharedPoint] at h
  cases hp : (peerElement peer : Except Error E) with
  | error err =>
    rw [hp] at h
    cases h
  | ok y =>
    have hpeer := le_length_of_peerElement hp
    rw [messageB]
    cases s.role with
    | initiator => exact hpeer
    | responder => exact hown

theorem le_length_ownMessage [FixedLengthGroup E] (role : Role) (password : Bytes)
    (context : Context) (x : Scalar E) :
    elementLength E ≤ (opened role password context x).ownMessage.length := by
  rw [opened, List.length_append, FixedLengthGroup.length_encode]
  exact Nat.le_add_right _ _

/-! ### Over ristretto255 -/

open Ristretto

theorem elementLength_element : ExchangeGroup.elementLength Element = 32 := rfl

theorem kind_of_peerElement {message : Bytes} {err : Error}
    (h : (peerElement message : Except Error Element) = .error err) :
    err.kind = if message.length < 32 then .encoding else .invalidMessage := by
  rw [peerElement, elementLength_element] at h
  by_cases hshort : message.length < 32
  · rw [if_pos hshort] at h
    cases h
    rw [if_pos hshort]
    rfl
  · rw [if_neg hshort] at h
    rw [if_neg hshort]
    exact kind_of_decode_error (List.length_take_of_le (Nat.not_lt.mp hshort)) h

/-- How the first message of a session can end. -/
theorem first_finish {s : Session Element} (hs : s.status = .started) (message : Bytes) :
    (∃ k, (s.finish message).1 = .ok k) ∧ (s.finish message).2.status = s.role.done ∨
    (∃ err, (s.finish message).1 = .error err ∧
      err.kind = if message.length < 32 then .encoding else .invalidMessage) ∧
      (s.finish message).2.status = .failed := by
  rcases finish_of_started hs message with ⟨k, h⟩ | ⟨err, h, hreason⟩
  · rw [h]
    exact Or.inl ⟨⟨k, rfl⟩, rfl⟩
  · rw [h]
    refine Or.inr ⟨⟨err, rfl, ?_⟩, rfl⟩
    rcases hreason with herr | ⟨rfl, y, hy⟩
    · exact kind_of_peerElement herr
    · have hlong : ¬ message.length < 32 := Nat.not_lt.mpr (le_length_of_peerElement hy)
      rw [if_neg hlong]
      rfl

/-- **A session is used once, and its secrets are gone after its first message.**  That message leads to a
secret and to the end of the session's role, or to a failure; every later one is refused with the status
that the first has left, and changes nothing.  At any time the session waits for its peer or holds no
secret.  What its peer knows of it stays, and wherever a responder's element is cut from a message, the
message is long enough. -/
theorem session_is_single_use {role : Role} {password : Bytes} {context : Context} {e : Entropy}
    {s : Session Element}
    (h : (begin role password context e : Except Error (Session Element) × Entropy).1 = .ok s)
    (message : Bytes) (messages : List Bytes) :
    let first := s.finish message
    let t := s.after messages
    ((∃ k, first.1 = .ok k) ∧ first.2.status = (match role with
        | .initiator => .finished
        | .responder => .exchanged) ∨
      (∃ err, first.1 = .error err ∧
        err.kind = if message.length < 32 then .encoding else .invalidMessage) ∧
        first.2.status = .failed) ∧
    s.answers (message :: messages) = first.1 ::
      messages.map (fun _ => .error (.invalidState "finish" first.2.status)) ∧
    s.after (message :: messages) = first.2 ∧
    (s.answers messages).countP Except.isOk ≤ 1 ∧
    t.Held ∧ t.role = role ∧ t.context = context ∧ t.ownMessage = s.ownMessage ∧
    ∀ peer z, t.sharedPoint peer = .ok z → 32 ≤ (t.messageB peer).length := by
  intro first t
  obtain ⟨x, -, rfl⟩ := begin_eq_ok_iff.mp h
  have hsame := sameParty_after (opened role password context x) messages
  refine ⟨?_, answers_cons _ message messages, after_cons _ message messages,
    countP_isOk_answers_le_one _ messages, held_after (held_opened _ _ _ x) messages,
    hsame.role, hsame.context, hsame.ownMessage, ?_⟩
  · have hfirst := first_finish (s := opened role password context x) rfl message
    cases role with
    | initiator => exact hfirst
    | responder => exact hfirst
  · intro peer z hz
    rw [← elementLength_element]
    apply le_length_messageB _ hz
    rw [hsame.ownMessage]
    exact le_length_ownMessage role password context x

/-- An initiator that draws 5 finishes on the reply of a responder that draws 9, but not twice. -/
theorem second_reply_is_refused :
    ∃ (s : Session Element) (reply : Bytes) (k : Secret),
      (begin .initiator [112, 119] ⟨[]⟩ (.ofBytes (5 :: List.replicate 63 0)) :
        Except Error (Session Element) × Entropy).1 = .ok s ∧
      s.answers [reply, reply] = [.ok k, .error (.invalidState "finish" .finished)] := by
  let s : Session Element := opened .initiator [112, 119] ⟨[]⟩ (⟨5, by decide⟩ : Ristretto.Scalar)
  have hbegin : (begin .initiator [112, 119] ⟨[]⟩ (.ofBytes (5 :: List.replicate 63 0)) :
      Except Error (Session Element) × Entropy).1 = .ok s :=
    begin_eq_ok_iff.mpr ⟨_, sampleScalar_five, rfl⟩
  let reply := (opened (E := Element) .responder [112, 119] ⟨[]⟩
    (⟨9, by decide⟩ : Ristretto.Scalar)).ownMessage
  have hfinish : s.finish reply = _ := finish_of_shared shared_nine_five
  obtain ⟨-, hanswers, -⟩ := session_is_single_use hbegin reply [reply]
  rw [hfinish] at hanswers
  exact ⟨s, reply, _, hbegin, hanswers⟩

end Session

end Pairing
