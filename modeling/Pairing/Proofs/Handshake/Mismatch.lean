import Mathlib.Data.List.Forall2
import Pairing.Proofs.Handshake.Agreement
import Pairing.Proofs.Handshake.Lifecycle

/-!
# A mismatch is not signalled

Whether a step succeeds, and how it fails, is all that a party shows of it (`outcome`).  That depends on the
source of randomness and on the element at the front of the peer's message (`SameElement`), never on the
password or the context: sessions with one role, status and scalar are `Alike`, and they answer alike and
stay alike (`alike_finish`), whatever their generators are.

What follows the element is in the responder's transcript but not in the initiator's, so an initiator's
secret does not depend on it either (`finish_congr_of_initiator`).
-/

namespace Pairing

open ExchangeGroup

/-- What can be seen of an answer: that there is one, or why there is none. -/
def outcome {α : Type} (x : Except Error α) : Except Error Unit := x.map fun _ => ()

@[simp] theorem outcome_ok {α : Type} (a : α) : outcome (.ok a) = .ok () := rfl

/-- Messages with the same element at the front; what follows it may differ. -/
def SameElement (E : Type) [ExchangeGroup E] (message message' : Bytes) : Prop :=
  message.take (elementLength E) = message'.take (elementLength E)

variable {E : Type} [ExchangeGroup E] {message message' : Bytes}

theorem peerElement_congr (h : SameElement E message message') :
    (peerElement message : Except Error E) = peerElement message' := by
  have hlength := congrArg List.length h
  rw [List.length_take, List.length_take] at hlength
  have hshort : message.length < elementLength E ↔ message'.length < elementLength E := by omega
  rw [peerElement, peerElement, h]
  simp only [hshort]

namespace Session

variable {s t : Session E}

/-! ### Finishing -/

/-- Sessions that differ at most in what their password and context make of them. -/
structure Alike (s t : Session E) : Prop where
  role : s.role = t.role
  status : s.status = t.status
  scalar : s.scalar = t.scalar

theorem alike_opened (role : Role) (password password' : Bytes) (context context' : Context)
    (x : Scalar E) : Alike (opened role password context x) (opened role password' context' x) :=
  ⟨rfl, rfl, rfl⟩

theorem alike_closed (h : Alike s t) (status : Status) : Alike (s.closed status) (t.closed status) :=
  ⟨h.role, rfl, rfl⟩

/-- **Sessions that are alike answer alike** and stay alike. -/
theorem alike_finish (h : Alike s t) (hm : SameElement E message message') :
    outcome (s.finish message).1 = outcome (t.finish message').1 ∧
      Alike (s.finish message).2 (t.finish message').2 := by
  by_cases hs : s.status = .started
  · have ht : t.status = .started := h.status ▸ hs
    cases hp : (peerElement message : Except Error E) with
    | error err =>
      rw [finish_of_invalid hs hp, finish_of_invalid ht ((peerElement_congr hm).symm.trans hp)]
      exact ⟨rfl, alike_closed h .failed⟩
    | ok y =>
      have hp' := (peerElement_congr hm).symm.trans hp
      cases hz : isIdentity (smul s.scalar y) with
      | true =>
        rw [finish_of_identity hs hp hz, finish_of_identity ht hp' (h.scalar ▸ hz)]
        exact ⟨rfl, alike_closed h .failed⟩
      | false =>
        rw [finish_of_element hs hp hz, finish_of_element ht hp' (h.scalar ▸ hz), h.role,
          outcome_ok, outcome_ok]
        exact ⟨rfl, alike_closed h _⟩
  · have ht : t.status ≠ .started := h.status ▸ hs
    rw [finish_of_not_started hs, finish_of_not_started ht, h.status]
    exact ⟨rfl, h⟩

theorem alike_run (h : Alike s t) {messages messages' : List Bytes}
    (hm : List.Forall₂ (SameElement E) messages messages') :
    (s.answers messages).map outcome = (t.answers messages').map outcome ∧
      Alike (s.after messages) (t.after messages') := by
  induction hm generalizing s t with
  | nil => exact ⟨rfl, h⟩
  | cons hm _ ih =>
    obtain ⟨hfirst, hnext⟩ := alike_finish h hm
    obtain ⟨hrest, hend⟩ := ih hnext
    refine ⟨?_, hend⟩
    rw [answers, answers, List.map_cons, List.map_cons, hfirst, hrest]

/-! ### The secret of an initiator -/

theorem finish_congr_of_initiator (hrole : s.role = .initiator) (hm : SameElement E message message') :
    s.finish message = s.finish message' := by
  have hshared : s.sharedPoint message = s.sharedPoint message' := by
    rw [sharedPoint, sharedPoint, peerElement_congr hm]
  have hA : s.messageA message = s.messageA message' := by
    rw [messageA, messageA, hrole]
  have hB : (s.messageB message).take (elementLength E) =
      (s.messageB message').take (elementLength E) := by
    rw [messageB, messageB, hrole]
    exact hm
  have htranscript : s.transcript message = s.transcript message' := by
    rw [transcript, transcript, hshared, hA, hB]
  rw [finish, finish, htranscript]

theorem answers_congr_of_initiator (hrole : s.role = .initiator) {messages messages' : List Bytes}
    (hm : List.Forall₂ (SameElement E) messages messages') :
    s.answers messages = s.answers messages' := by
  induction hm generalizing s with
  | nil => rfl
  | @cons message _ _ _ hm _ ih =>
    have hnext := (sameParty_finish s message).role.trans hrole
    rw [answers, answers, ih hnext, finish_congr_of_initiator hrole hm]

/-! ### Starting and answering -/

theorem outcome_start (password password' : Bytes) (context context' : Context) (e : Entropy) :
    outcome (start (E := E) password context e).1 = outcome (start (E := E) password' context' e).1 ∧
      (start (E := E) password context e).2 = (start (E := E) password' context' e).2 := by
  rcases hx : (sampleScalar e : Except Error (Scalar E) × Entropy) with ⟨err | x, e'⟩
  · rw [start, start, begin_of_unavailable hx, begin_of_unavailable hx]
    exact ⟨rfl, rfl⟩
  · rw [start, start, begin_of_scalar hx, begin_of_scalar hx]
    exact ⟨rfl, rfl⟩

/-- Two answers to one element fail alike, or both carry the multiples of one scalar. -/
theorem exchange_alike (hm : SameElement E message message') (password password' : Bytes)
    (context context' : Context) (e : Entropy) :
    (∃ err e', exchange E password context message e = (.error err, e') ∧
      exchange E password' context' message' e = (.error err, e')) ∨
    ∃ (x : Scalar E) (k k' : Secret) (e' : Entropy),
      exchange E password context message e =
        (.ok ((opened .responder password context x).ownMessage, k), e') ∧
      exchange E password' context' message' e =
        (.ok ((opened .responder password' context' x).ownMessage, k'), e') := by
  cases hp : (peerElement message : Except Error E) with
  | error err =>
    have hp' := (peerElement_congr hm).symm.trans hp
    exact Or.inl ⟨err, e, exchange_of_invalid hp, exchange_of_invalid hp'⟩
  | ok y =>
    have hp' := (peerElement_congr hm).symm.trans hp
    rcases hx : (sampleScalar e : Except Error (Scalar E) × Entropy) with ⟨err | x, e'⟩
    · exact Or.inl ⟨err, e', exchange_of_unavailable hp hx, exchange_of_unavailable hp' hx⟩
    · cases hz : isIdentity (smul x y) with
      | true => exact Or.inl ⟨_, e', exchange_of_identity hp hx hz, exchange_of_identity hp' hx hz⟩
      | false =>
        exact Or.inr ⟨x, _, _, e', exchange_of_element hp hx hz, exchange_of_element hp' hx hz⟩

theorem outcome_exchange (hm : SameElement E message message') (password password' : Bytes)
    (context context' : Context) (e : Entropy) :
    outcome (exchange E password context message e).1 =
        outcome (exchange E password' context' message' e).1 ∧
      (exchange E password context message e).2 = (exchange E password' context' message' e).2 := by
  rcases exchange_alike hm password password' context context' e with
    ⟨err, e', h, h'⟩ | ⟨x, k, k', e', h, h'⟩
  · rw [h, h']
    exact ⟨rfl, rfl⟩
  · rw [h, h', outcome_ok, outcome_ok]
    exact ⟨rfl, rfl⟩

theorem reply_congr (hm : SameElement E message message') (password : Bytes) (context : Context)
    (e : Entropy) :
    (exchange E password context message e).1.map Prod.fst =
      (exchange E password context message' e).1.map Prod.fst := by
  rcases exchange_alike hm password password context context e with
    ⟨err, e', h, h'⟩ | ⟨x, k, k', e', h, h'⟩
  · rw [h, h']
  · rw [h, h']
    rfl

/-! ### Runs with different passwords -/

section PrimeOrder

variable [PrimeOrderGroup E] {x y : Scalar E} {p : E}

theorem smul_ne_identity (hx : x ≠ zero) (hp : p ≠ identity) : smul x p ≠ identity := by
  intro h
  rcases PrimeOrderGroup.eq_of_smul_eq x p h with h | h
  · exact hx h
  · exact hp h

theorem isIdentity_smul_smul (hx : x ≠ zero) (hy : y ≠ zero) (hp : p ≠ identity) :
    isIdentity (smul x (smul y p)) = false :=
  isIdentity_eq_false_iff.mpr (smul_ne_identity hx (smul_ne_identity hy hp))

variable {password password' : Bytes} {context context' : Context} {e f : Entropy}

/-- **A run completes whatever the passwords are**: only a zero scalar, or a generator that is the identity,
could keep it from that. -/
theorem mismatched_run_completes (hy : (sampleScalar e).1 = .ok y) (hx : (sampleScalar f).1 = .ok x)
    (hy0 : y ≠ zero) (hx0 : x ≠ zero) (hg : generatorOf password context ≠ (identity : E))
    (hg' : generatorOf password' context' ≠ (identity : E)) :
    ∃ messageA messageB k k', ∃ s : Session E,
      (start password context e).1 = .ok (messageA, s) ∧
      (exchange E password' context' messageA f).1 = .ok (messageB, k') ∧
      (s.finish messageB).1 = .ok k := by
  have hA := peerElement_of_ne_identity (smul_ne_identity hy0 hg) context.bytes
  have hB := peerElement_of_ne_identity (smul_ne_identity hx0 hg') context'.bytes
  have hexchange : exchange E password' context' _ f = _ :=
    exchange_of_element hA (Prod.ext hx rfl) (isIdentity_smul_smul hx0 hy0 hg)
  have hfinish := finish_of_element (s := opened .initiator password context y) rfl hB
    (isIdentity_smul_smul hy0 hx0 hg')
  exact ⟨_, _, _, _, _, start_eq_ok_iff.mpr ⟨y, hy, rfl, rfl⟩, congrArg Prod.fst hexchange,
    congrArg Prod.fst hfinish⟩

end PrimeOrder

/-- **A mismatch is not signalled.**  For any two passwords and contexts, one source of randomness and peer
messages with the same elements: starts end alike and read as much; answers end alike and read as much,
and one password's reply is the same; the started sessions answer any messages alike and get to one status,
and each to the same secrets.  In a group of prime order, a run between the two of them completes. -/
theorem mismatch_is_not_signalled (password password' : Bytes) (context context' : Context)
    (e : Entropy) :
    (outcome (start (E := E) password context e).1 = outcome (start (E := E) password' context' e).1 ∧
      (start (E := E) password context e).2 = (start (E := E) password' context' e).2) ∧
    (∀ message message', SameElement E message message' →
      outcome (exchange E password context message e).1 =
          outcome (exchange E password' context' message' e).1 ∧
        (exchange E password context message e).2 = (exchange E password' context' message' e).2 ∧
        (exchange E password context message e).1.map Prod.fst =
          (exchange E password context message' e).1.map Prod.fst) ∧
    (∀ messageA messageA' (s t : Session E),
      (start password context e).1 = .ok (messageA, s) →
      (start password' context' e).1 = .ok (messageA', t) →
      ∀ messages messages', List.Forall₂ (SameElement E) messages messages' →
        (s.answers messages).map outcome = (t.answers messages').map outcome ∧
          (s.after messages).status = (t.after messages').status ∧
          s.answers messages = s.answers messages') ∧
    ∀ [PrimeOrderGroup E] (f : Entropy) (x y : Scalar E),
      (sampleScalar e).1 = .ok y → (sampleScalar f).1 = .ok x → y ≠ zero → x ≠ zero →
      generatorOf password context ≠ (identity : E) →
      generatorOf password' context' ≠ (identity : E) →
      ∃ messageA messageB k k', ∃ s : Session E,
        (start password context e).1 = .ok (messageA, s) ∧
        (exchange E password' context' messageA f).1 = .ok (messageB, k') ∧
        (s.finish messageB).1 = .ok k := by
  refine ⟨outcome_start password password' context context' e, ?_, ?_, ?_⟩
  · intro message message' hm
    obtain ⟨houtcome, hsource⟩ := outcome_exchange hm password password' context context' e
    exact ⟨houtcome, hsource, reply_congr hm password context e⟩
  · intro messageA messageA' s t hs ht messages messages' hm
    obtain ⟨y, hy, rfl, -⟩ := start_eq_ok_iff.mp hs
    obtain ⟨y', hy', rfl, -⟩ := start_eq_ok_iff.mp ht
    cases hy.symm.trans hy'
    obtain ⟨hanswers, halike⟩ := alike_run (alike_opened .initiator password password' context
      context' y) hm
    exact ⟨hanswers, halike.status, answers_congr_of_initiator rfl hm⟩
  · intro _ f x y hy hx hy0 hx0 hg hg'
    exact mismatched_run_completes hy hx hy0 hx0 hg hg'

/-- Over residues, generators 14 and 3: neither party sees that the other has a different one, nor can an
initiator with the other password be told apart by a reply that was cut short. -/
theorem mismatched_residues_complete :
    let s : Session Residue := opened .initiator [1] ⟨[7]⟩ (5 : Fin 251)
    let t : Session Residue := opened .initiator [2] ⟨[]⟩ (5 : Fin 251)
    (s.answers [[27, 7], [27]]).map outcome = (t.answers [[27], [27, 7]]).map outcome ∧
      ∃ messageA messageB k k', ∃ u : Session Residue,
        (start [1] ⟨[7]⟩ (.ofBytes [5])).1 = .ok (messageA, u) ∧
        (exchange Residue [2] ⟨[]⟩ messageA (.ofBytes [9])).1 = .ok (messageB, k') ∧
        (u.finish messageB).1 = .ok k := by
  intro s t
  obtain ⟨-, -, halike, hcomplete⟩ :=
    mismatch_is_not_signalled (E := Residue) [1] [2] ⟨[7]⟩ ⟨[]⟩ (.ofBytes [5])
  have hmessages : List.Forall₂ (SameElement Residue) [[27, 7], [27]] [[27], [27, 7]] :=
    .cons rfl (.cons rfl .nil)
  refine ⟨(halike _ _ s t rfl rfl _ _ hmessages).1, ?_⟩
  have hy0 : (5 : Fin 251) ≠ 0 := by decide
  have hx0 : (9 : Fin 251) ≠ 0 := by decide
  exact hcomplete (.ofBytes [9]) (9 : Fin 251) (5 : Fin 251) rfl rfl hy0 hx0 (by decide) (by decide)

end Session

end Pairing
