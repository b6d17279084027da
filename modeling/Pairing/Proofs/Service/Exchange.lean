import Pairing.Proofs.ExchangeGroup.Ristretto
import Pairing.Proofs.Service.Operations

/-!
# What an exchange answers

`Answers` lists all that an exchange can come to, in the order in which its checks are made: a text that nothing
is written as, a message too short for an element, a front that is no element or the identity, a source too
short for a scalar, a shared point that is the identity, and the answer.  Each case is what the exchange does
(`exchange_of_answers`), and there are no others (`exists_answers`).  `FailsAs` sorts the failures by their
kinds; none is one of state or of authentication.

The message's element is read twice, before the scalar is drawn and again by the session.  Both readings give
the same (`finish_of_peerElement`).
-/

namespace Pairing

open ExchangeGroup Ristretto

/-! ### Elements at the front of messages -/

section Front

variable {message : Bytes}

theorem peerElement_of_long (h : 32 ≤ message.length) :
    (peerElement message : Except Error Element) = Ristretto.decode (message.take 32) := by
  have hlong : ¬ message.length < elementLength Element := Nat.not_lt.mpr h
  rw [peerElement, if_neg hlong]
  rfl

theorem le_length_of_front {p : Element} (h : message.take 32 = encode p) : 32 ≤ message.length := by
  have hlength : (message.take 32).length = 32 := by
    rw [h]
    exact FixedLengthGroup.length_encode p
  rw [List.length_take] at hlength
  omega

theorem peerElement_of_front {p : Element} (h : message.take 32 = encode p)
    (hp : p ≠ Element.identity) : peerElement message = .ok p := by
  rw [peerElement_of_long (le_length_of_front h), h]
  exact decode_encoding hp

/-- **What is read as an element** is the encoding of one that is not the identity. -/
theorem peerElement_eq_ok_iff {p : Element} :
    peerElement message = .ok p ↔ message.take 32 = encode p ∧ p ≠ Element.identity := by
  constructor
  · intro h
    have hlong : 32 ≤ message.length := le_length_of_peerElement h
    rw [peerElement_of_long hlong] at h
    by_cases hfront : ∃ r : Element, message.take 32 = encode r
    · obtain ⟨r, hfront⟩ := hfront
      by_cases hr : r = Element.identity
      · cases (decode_of_identity hr).symm.trans (hfront ▸ h)
      · cases (decode_encoding hr).symm.trans (hfront ▸ h)
        exact ⟨hfront, hr⟩
    · have hne : ∀ r : Element, message.take 32 ≠ r.encoding.1 := fun r hr => hfront ⟨r, hr⟩
      cases (decode_of_forall_ne (List.length_take_of_le hlong) hne).symm.trans h
  · rintro ⟨hfront, hp⟩
    exact peerElement_of_front hfront hp

end Front

namespace Service

variable {s : Service Element} {q : ExchangeRequest} {message : Bytes} {y : Element}

/-- The text of a message whose first 32 bytes encode this element, which is not the identity. -/
structure Carries (text : String) (message : Bytes) (y : Element) : Prop where
  text_eq : text = Transport.encode message
  front : message.take 32 = encode y
  ne_identity : y ≠ Element.identity

/-- The scalar that the next 64 bytes of a service's source give. -/
def nextScalar (s : Service Element) : Ristretto.Scalar := scalarAt s.entropy s.entropy.used

/-- The generator of a password and of context bytes; no context is the empty one. -/
def generatorWith (password : String) (context : Option Bytes) : Element :=
  ExchangeGroup.generator (Bytes.ofText password) (context.getD [])

/-- What a run is hashed to, as its responder sees it. -/
def hashOf (g : Element) (message : Bytes) (x : Ristretto.Scalar) (y : Element) : Block 32 :=
  sha256 (Transcript.label ++ encode g ++ Bytes.lengthPrefixed 8 message ++ encode (smul x g) ++
    encode (smul x y))

/-- A responder's answer with the scalar `x` to a message that carries `y`. -/
def responseTo (q : ExchangeRequest) (message : Bytes) (x : Ristretto.Scalar) (y : Element) :
    ExchangeResponse :=
  let g := generatorWith q.password q.context
  { messageB := Transport.encode (encode (smul x g) ++ q.context.getD [])
    key := ⟨Hkdf.derive (hashOf g message x y).1 []⟩ }

/-- What an exchange comes to, and the source that it leaves. -/
inductive Answers (s : Service Element) (q : ExchangeRequest) :
    Except Error ExchangeResponse → Entropy → Prop
  | unwritten (ne_encode : ∀ b, q.messageA ≠ Transport.encode b) :
      Answers s q (.error (.pairing .transportText)) s.entropy
  | short {message : Bytes} (text : q.messageA = Transport.encode message)
      (length : message.length < 32) : Answers s q (.error (.pairing .messageShort)) s.entropy
  | foreign {message : Bytes} (text : q.messageA = Transport.encode message)
      (length : 32 ≤ message.length) (ne_encode : ∀ y : Element, message.take 32 ≠ encode y) :
      Answers s q (.error (.pairing .elementEncoding)) s.entropy
  | identity {message : Bytes} (text : q.messageA = Transport.encode message)
      (front : message.take 32 = encode Element.identity) :
      Answers s q (.error (.pairing .elementIdentity)) s.entropy
  | unavailable {message : Bytes} {y : Element} (carries : Carries q.messageA message y)
      (supply : s.entropy.supply < s.entropy.used + 64) :
      Answers s q (.error (.pairing (.randomness "entropy exhausted"))) s.entropy
  | cancelled {message : Bytes} {y : Element} (carries : Carries q.messageA message y)
      (supply : s.entropy.used + 64 ≤ s.entropy.supply)
      (point : smul s.nextScalar y = Element.identity) :
      Answers s q (.error (.pairing .sharedIdentity)) { s.entropy with used := s.entropy.used + 64 }
  | answered {message : Bytes} {y : Element} (carries : Carries q.messageA message y)
      (supply : s.entropy.used + 64 ≤ s.entropy.supply)
      (point : smul s.nextScalar y ≠ Element.identity) :
      Answers s q (.ok (responseTo q message s.nextScalar y))
        { s.entropy with used := s.entropy.used + 64 }

/-- The kind of a failure, by the first check that fails, and the source that it leaves. -/
inductive FailsAs (s : Service Element) (q : ExchangeRequest) : ErrorKind → Entropy → Prop
  | encoding (short : ∀ message, q.messageA = Transport.encode message → message.length < 32) :
      FailsAs s q .encoding s.entropy
  | invalid {message : Bytes} (text : q.messageA = Transport.encode message)
      (length : 32 ≤ message.length)
      (front : ∀ y : Element, message.take 32 = encode y → y = Element.identity) :
      FailsAs s q .invalidMessage s.entropy
  | internal {message : Bytes} {y : Element} (carries : Carries q.messageA message y)
      (supply : s.entropy.supply < s.entropy.used + 64) : FailsAs s q .internal s.entropy
  | cancelled {message : Bytes} {y : Element} (carries : Carries q.messageA message y)
      (supply : s.entropy.used + 64 ≤ s.entropy.supply)
      (point : smul s.nextScalar y = Element.identity) :
      FailsAs s q .invalidMessage { s.entropy with used := s.entropy.used + 64 }

/-! ### The first reading -/

/-- The peer's element in an exchange, if its text and the element itself are accepted. -/
def acceptedElement (q : ExchangeRequest) : Except Pairing.Error Element :=
  (Transport.decode q.messageA).bind peerElement

theorem acceptedElement_of_text (h : q.messageA = Transport.encode message) :
    acceptedElement q = peerElement message := by
  rw [acceptedElement, h, Transport.decode_encode]
  rfl

theorem Carries.decode_eq (h : Carries q.messageA message y) :
    Transport.decode q.messageA = .ok message := by
  rw [h.text_eq, Transport.decode_encode]

theorem Carries.peerElement_eq (h : Carries q.messageA message y) : peerElement message = .ok y :=
  peerElement_of_front h.front h.ne_identity

theorem acceptedElement_eq_ok_iff :
    acceptedElement q = .ok y ↔ ∃ message, Carries q.messageA message y := by
  constructor
  · intro h
    cases hread : Transport.decode q.messageA with
    | error err =>
      rw [acceptedElement, hread] at h
      cases h
    | ok message =>
      have htext := Transport.decode_eq_ok_iff.mp hread
      rw [acceptedElement_of_text htext, peerElement_eq_ok_iff] at h
      exact ⟨message, htext, h.1, h.2⟩
  · rintro ⟨message, h⟩
    rw [acceptedElement_of_text h.text_eq, h.peerElement_eq]

/-- The text is that of a message with an element that is accepted. -/
def Accepted (q : ExchangeRequest) : Prop := ∃ message y, Carries q.messageA message y

theorem isOk_acceptedElement_iff : (acceptedElement q).isOk = true ↔ Accepted q := by
  constructor
  · intro h
    cases hq : acceptedElement q with
    | error err =>
      rw [hq] at h
      cases h
    | ok y =>
      obtain ⟨message, hcarries⟩ := acceptedElement_eq_ok_iff.mp hq
      exact ⟨message, y, hcarries⟩
  · rintro ⟨message, y, hcarries⟩
    rw [acceptedElement_eq_ok_iff.mpr ⟨message, hcarries⟩]
    rfl

theorem exists_error_of_not_accepted (h : ¬ Accepted q) : ∃ err, acceptedElement q = .error err := by
  rw [← isOk_acceptedElement_iff] at h
  cases hq : acceptedElement q with
  | error err => exact ⟨err, rfl⟩
  | ok y =>
    rw [hq] at h
    exact absurd rfl h

instance (q : ExchangeRequest) : Decidable (Accepted q) :=
  decidable_of_iff _ isOk_acceptedElement_iff

theorem exchange_of_refused {err : Pairing.Error} (h : acceptedElement q = .error err) :
    s.exchange q = (.error (.pairing err), s) := by
  rw [acceptedElement] at h
  rw [exchange]
  cases hmessage : Transport.decode q.messageA with
  | error err' =>
    rw [hmessage] at h
    cases h
    rfl
  | ok message =>
    rw [hmessage] at h
    simp only [Session.exchange_of_invalid h]

/-! ### The second reading -/

theorem isIdentity_eq_false {p : Element} (h : p ≠ Element.identity) : isIdentity p = false :=
  beq_eq_false_iff_ne.mpr h

theorem isIdentity_of_eq {p : Element} (h : p = Element.identity) : isIdentity p = true :=
  beq_iff_eq.mpr h

/-- **A session reads the element that was read before it began.** -/
theorem finish_of_peerElement {x : Session Element} (hx : x.status = .started)
    (hy : peerElement message = .ok y) :
    (x.finish message).1 = if smul x.scalar y = Element.identity then .error .sharedIdentity
      else .ok (x.transcriptWith message y).secret := by
  by_cases hz : smul x.scalar y = Element.identity
  · rw [if_pos hz, Session.finish_of_identity hx hy (isIdentity_of_eq hz)]
  · rw [if_neg hz, Session.finish_of_element hx hy (isIdentity_eq_false hz)]

theorem contextOf_eq (context : Option Bytes) : contextOf context = ⟨context.getD []⟩ := by
  cases context with
  | none => rfl
  | some b => rfl

/-- The reply and the key of a responder's session. -/
theorem responseTo_eq (q : ExchangeRequest) (message : Bytes) (x : Ristretto.Scalar) (y : Element) :
    let session : Session Element := .opened .responder (Bytes.ofText q.password) (contextOf q.context) x
    responseTo q message x y =
      ⟨Transport.encode session.ownMessage, (session.transcriptWith message y).secret.deriveKey⟩ := by
  intro session
  have hg : (generatorOf (Bytes.ofText q.password) (contextOf q.context) : Element) =
      generatorWith q.password q.context := by
    rw [contextOf_eq, generatorWith]
  have hmessage : session.ownMessage =
      encode (smul x (generatorWith q.password q.context)) ++ q.context.getD [] := by
    rw [Session.ownMessage_opened, hg, contextOf_eq]
  rw [hmessage, Secret.deriveKey, Transcript.secret,
    Session.toBytes_transcriptWith_opened_responder, hg, responseTo, hashOf]

section Accepted

variable (hcarries : Carries q.messageA message y)
include hcarries

theorem exchange_of_short (hs : s.entropy.supply < s.entropy.used + 64) :
    s.exchange q = (.error (.pairing (.randomness "entropy exhausted")), s) := by
  have hscalar := sampleScalar_of_short (Nat.not_le.mpr hs)
  rw [exchange, hcarries.decode_eq]
  simp only [Session.exchange_of_unavailable hcarries.peerElement_eq hscalar]

variable (hs : s.entropy.used + 64 ≤ s.entropy.supply)
include hs

theorem exchange_of_supply :
    s.exchange q = (if smul s.nextScalar y = Element.identity then .error (.pairing .sharedIdentity)
        else .ok (responseTo q message s.nextScalar y),
      { s with entropy := { s.entropy with used := s.entropy.used + 64 } }) := by
  have hy := hcarries.peerElement_eq
  have hscalar := sampleScalar_of_supply hs
  by_cases hz : smul s.nextScalar y = Element.identity
  · rw [if_pos hz, exchange, hcarries.decode_eq]
    simp only [Session.exchange_of_identity hy hscalar (isIdentity_of_eq hz)]
  · rw [if_neg hz, exchange, hcarries.decode_eq, responseTo_eq, nextScalar]
    simp only [Session.exchange_of_element hy hscalar (isIdentity_eq_false hz)]

end Accepted

/-! ### All cases -/

/-- **Each case is what the exchange does.** -/
theorem exchange_of_answers {a : Except Error ExchangeResponse} {e : Entropy}
    (h : Answers s q a e) : s.exchange q = (a, { s with entropy := e }) := by
  cases h with
  | unwritten hne =>
    apply exchange_of_refused
    rw [acceptedElement, Transport.decode_of_forall_ne hne]
    rfl
  | short htext hshort =>
    apply exchange_of_refused
    rw [acceptedElement_of_text htext, peerElement]
    exact if_pos hshort
  | foreign htext hlong hne =>
    apply exchange_of_refused
    rw [acceptedElement_of_text htext, peerElement_of_long hlong]
    exact decode_of_forall_ne (List.length_take_of_le hlong) hne
  | identity htext hfront =>
    apply exchange_of_refused
    rw [acceptedElement_of_text htext, peerElement_of_long (le_length_of_front hfront), hfront]
    exact decode_of_identity rfl
  | unavailable hcarries hs => exact exchange_of_short hcarries hs
  | cancelled hcarries hs hz => rw [exchange_of_supply hcarries hs, if_pos hz]
  | answered hcarries hs hz => rw [exchange_of_supply hcarries hs, if_neg hz]

/-- **There is no other case.** -/
theorem exists_answers (s : Service Element) (q : ExchangeRequest) : ∃ a e, Answers s q a e := by
  cases hread : Transport.decode q.messageA with
  | error err =>
    refine ⟨_, _, .unwritten ?_⟩
    intro b hb
    rw [hb, Transport.decode_encode] at hread
    cases hread
  | ok message =>
    have htext := Transport.decode_eq_ok_iff.mp hread
    by_cases hshort : message.length < 32
    · exact ⟨_, _, .short htext hshort⟩
    by_cases hfront : ∃ y : Element, message.take 32 = encode y
    · obtain ⟨y, hfront⟩ := hfront
      by_cases hy : y = Element.identity
      · rw [hy] at hfront
        exact ⟨_, _, .identity htext hfront⟩
      have hcarries : Carries q.messageA message y := ⟨htext, hfront, hy⟩
      by_cases hs : s.entropy.used + 64 ≤ s.entropy.supply
      · by_cases hz : smul s.nextScalar y = Element.identity
        · exact ⟨_, _, .cancelled hcarries hs hz⟩
        · exact ⟨_, _, .answered hcarries hs hz⟩
      · exact ⟨_, _, .unavailable hcarries (Nat.not_le.mp hs)⟩
    · exact ⟨_, _, .foreign htext (Nat.not_lt.mp hshort) fun y hy => hfront ⟨y, hy⟩⟩

theorem exchange_eq_iff {a : Except Error ExchangeResponse} {t : Service Element} :
    s.exchange q = (a, t) ↔ ∃ e, Answers s q a e ∧ t = { s with entropy := e } := by
  constructor
  · intro h
    obtain ⟨a', e, ha⟩ := exists_answers s q
    cases (exchange_of_answers ha).symm.trans h
    exact ⟨e, ha, rfl⟩
  · rintro ⟨e, ha, rfl⟩
    exact exchange_of_answers ha

theorem failsAs_of_answers {cause : Error} {e : Entropy} (h : Answers s q (.error cause) e) :
    FailsAs s q cause.kind e := by
  cases h with
  | unwritten hne => exact .encoding fun message htext => absurd htext (hne message)
  | short htext hshort =>
    refine .encoding fun message htext' => ?_
    rw [← Transport.encode_inj (htext.symm.trans htext')]
    exact hshort
  | foreign htext hlong hne =>
    exact .invalid htext hlong fun y hfront => absurd hfront (hne y)
  | identity htext hfront =>
    refine .invalid htext (le_length_of_front hfront) fun y hfront' => ?_
    exact Element.ext_encoding (encoding_eq_of_encode (hfront'.symm.trans hfront))
  | unavailable hcarries hs => exact .internal hcarries hs
  | cancelled hcarries hs hz => exact .cancelled hcarries hs hz

/-- **An exchange makes its checks in order**, and nothing else comes of it.  What it answers and leaves is one
of the cases of `Answers`, so in all cases only the source changes, and a failure is of the kind that `FailsAs`
says.  First the text and the length of the message are checked, then its element, both before anything is read;
then a scalar is read, and the shared point is checked.  A session that reads the message again fails on it just
as the first reading does, and otherwise gets the same element. -/
theorem exchange_answers_in_order (s : Service Element) (q : ExchangeRequest) :
    (∀ a t, s.exchange q = (a, t) ↔ ∃ e, Answers s q a e ∧ t = { s with entropy := e }) ∧
    (∀ cause e, Answers s q (.error cause) e → FailsAs s q cause.kind e) ∧
    ∀ (x : Session Element) (message : Bytes), x.status = .started →
      (∀ err, (peerElement message : Except Pairing.Error Element) = .error err →
        (x.finish message).1 = .error err) ∧
      ∀ y, peerElement message = .ok y →
        (x.finish message).1 = if smul x.scalar y = Element.identity then .error .sharedIdentity
          else .ok (x.transcriptWith message y).secret := by
  refine ⟨fun a t => exchange_eq_iff, fun cause e => failsAs_of_answers, ?_⟩
  intro x message hx
  refine ⟨?_, fun y hy => finish_of_peerElement hx hy⟩
  intro err herr
  rw [Session.finish_of_invalid hx herr]

end Service

end Pairing
