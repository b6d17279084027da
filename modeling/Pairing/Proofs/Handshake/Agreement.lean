import Pairing.Proofs.ExchangeGroup.Residue
import Pairing.Proofs.Handshake.Session

/-!
# Both parties come to the same secret

An initiator that starts and a responder that answers with the same password and context write down one
transcript, `sharedTranscript`, although each multiplies the other's element by its own scalar.  What this
takes of the group at their two scalars is `Shared`: either element can be read, and the two products are
one point that is not the identity.  Then the responder answers (`exchange_of_shared`) and the initiator
finishes on the answer (`finish_of_shared`), both with the secret of that transcript.

Over a group with the laws it is enough that the shared point is not the identity (`shared_of_ne`), which a
responder has checked before it answers.  So the initiator finishes on every answer to its message, with
the responder's secret; `finish_agrees_with_exchange` also says what keeps a responder from answering.
-/

namespace Pairing.Session

open ExchangeGroup LawfulExchangeGroup

variable {E : Type} [ExchangeGroup E]

/-- The transcript of an undisturbed run in which the responder drew `x` and the initiator `y`. -/
def sharedTranscript (E : Type) [ExchangeGroup E] (password : Bytes) (context : Context)
    (x y : Scalar E) : Transcript where
  generator := encode (generatorOf password context : E)
  messageA := (opened .initiator password context y).ownMessage
  responderElement := encode (smul x (generatorOf password context : E))
  sharedPoint := encode (smul x (smul y (generatorOf password context : E)))

/-- The laws of the group at the two scalars of a run over the generator `g`. -/
structure Shared (g : E) (x y : Scalar E) : Prop where
  decode_left : decode (encode (smul x g)) = .ok (smul x g)
  decode_right : decode (encode (smul y g)) = .ok (smul y g)
  comm : smul y (smul x g) = smul x (smul y g)
  isIdentity_eq : isIdentity (smul x (smul y g)) = false

variable {password : Bytes} {context : Context} {x y : Scalar E} {e f : Entropy}

/-! ### The two sides of an undisturbed run -/

section FixedLength

variable [FixedLengthGroup E]

theorem transcriptWith_initiator
    (h : smul y (smul x (generatorOf password context : E)) =
      smul x (smul y (generatorOf password context))) :
    (opened .initiator password context y).transcriptWith
        (opened .responder password context x).ownMessage
        (smul x (generatorOf password context)) = sharedTranscript E password context x y := by
  show Transcript.mk _ _ (List.take _ (opened .responder password context x).ownMessage) _ = _
  rw [take_ownMessage]
  show Transcript.mk _ _ _ (encode (smul y (smul x (generatorOf password context : E)))) = _
  rw [h]
  rfl

theorem transcriptWith_responder (x y : Scalar E) :
    (opened .responder password context x).transcriptWith
        (opened .initiator password context y).ownMessage
        (smul y (generatorOf password context)) = sharedTranscript E password context x y :=
  transcriptWith_opened_responder password context x _ _

/-- The responder's answer to an initiator's own message. -/
theorem exchange_of_shared (hx : sampleScalar e = (.ok x, f))
    (h : Shared (generatorOf password context : E) x y) :
    exchange E password context (opened .initiator password context y).ownMessage e =
      (.ok ((opened .responder password context x).ownMessage,
        (sharedTranscript E password context x y).secret), f) := by
  have hy := (peerElement_encode_append _ context.bytes).trans h.decode_right
  have hanswer : exchange E password context (opened .initiator password context y).ownMessage e = _ :=
    exchange_of_element hy hx h.isIdentity_eq
  rw [← transcriptWith_responder x y]
  exact hanswer

/-- The initiator's end of the same run. -/
theorem finish_of_shared (h : Shared (generatorOf password context : E) x y) :
    (opened .initiator password context y).finish (opened .responder password context x).ownMessage =
      (.ok (sharedTranscript E password context x y).secret,
        (opened .initiator password context y).closed .finished) := by
  have hx := (peerElement_encode_append _ context.bytes).trans h.decode_left
  have hz : isIdentity (smul y (smul x (generatorOf password context : E))) = false := by
    rw [h.comm, h.isIdentity_eq]
  have hend := finish_of_element (s := opened .initiator password context y) rfl hx hz
  rw [← transcriptWith_initiator h.comm]
  exact hend

end FixedLength

/-! ### Under the laws -/

variable [LawfulExchangeGroup E]

theorem isIdentity_eq_false_iff {p : E} : isIdentity p = false ↔ p ≠ identity := by
  rw [← Bool.not_eq_true, isIdentity_iff]

/-- **The shared point decides.**  If either party's element were the identity, so would be the shared
point. -/
theorem shared_of_ne {g : E} (h : smul x (smul y g) ≠ identity) : Shared g x y where
  decode_left := by
    apply decode_encode
    intro hx
    apply h
    rw [LawfulExchangeGroup.smul_comm, hx, smul_identity]
  decode_right := by
    apply decode_encode
    intro hy
    apply h
    rw [hy, smul_identity]
  comm := LawfulExchangeGroup.smul_comm y x g
  isIdentity_eq := isIdentity_eq_false_iff.mpr h

/-- An answer to an initiator's own message takes a scalar and a shared point other than the identity. -/
theorem exists_shared_of_exchange {messageB : Bytes} {k : Secret}
    (h : (exchange E password context (opened .initiator password context y).ownMessage e).1 =
      .ok (messageB, k)) :
    ∃ x : Scalar E, (sampleScalar e).1 = .ok x ∧
      smul x (smul y (generatorOf password context : E)) ≠ identity := by
  obtain ⟨p, x, hp, hx, hz, -, -⟩ := exchange_eq_ok_iff.mp h
  refine ⟨x, hx, ?_⟩
  by_cases hy : smul y (generatorOf password context : E) = identity
  · -- the responder does not read the identity out of a message
    obtain ⟨err, herr⟩ := peerElement_identity (E := E) context.bytes
    rw [← hy] at herr
    cases herr.symm.trans hp
  · cases (peerElement_of_ne_identity hy context.bytes).symm.trans hp
    exact isIdentity_eq_false_iff.mp hz

/-- **The initiator finishes on the answer** to its own message, with the responder's secret. -/
theorem finish_of_exchange {messageB : Bytes} {k : Secret}
    (h : (exchange E password context (opened .initiator password context y).ownMessage e).1 =
      .ok (messageB, k)) :
    (opened .initiator password context y).finish messageB =
        (.ok k, (opened .initiator password context y).closed .finished) ∧
      ∃ x : Scalar E, (sampleScalar e).1 = .ok x ∧
        k = (sharedTranscript E password context x y).secret := by
  obtain ⟨x, hx, hz⟩ := exists_shared_of_exchange h
  rw [exchange_of_shared (Prod.ext hx rfl) (shared_of_ne hz)] at h
  cases h
  exact ⟨finish_of_shared (shared_of_ne hz), x, hx, rfl⟩

/-- **What keeps a responder from answering** an initiator's own message. -/
theorem exchange_ownMessage_error_iff :
    (∃ err, (exchange E password context (opened .initiator password context y).ownMessage e).1 =
        .error err) ↔
      (∃ err, (sampleScalar (E := E) e).1 = .error err) ∨
      smul y (generatorOf password context : E) = identity ∨
      ∃ x : Scalar E, (sampleScalar e).1 = .ok x ∧
        smul x (smul y (generatorOf password context : E)) = identity := by
  constructor
  · rintro ⟨err, herr⟩
    rcases hx : (sampleScalar e : Except Error (Scalar E) × Entropy) with ⟨err' | x, f⟩
    · exact Or.inl ⟨err', rfl⟩
    · by_cases hz : smul x (smul y (generatorOf password context : E)) = identity
      · exact Or.inr (Or.inr ⟨x, rfl, hz⟩)
      · rw [exchange_of_shared hx (shared_of_ne hz)] at herr
        cases herr
  · intro h
    cases hk : (exchange E password context
        (opened .initiator password context y).ownMessage e).1 with
    | error err => exact ⟨err, rfl⟩
    | ok answer =>
      obtain ⟨x, hx, hz⟩ := exists_shared_of_exchange hk
      rcases h with ⟨err, herr⟩ | hy | ⟨x', hx', hz'⟩
      · cases hx.symm.trans herr
      · exact absurd (by rw [hy, smul_identity]) hz
      · cases hx.symm.trans hx'
        exact absurd hz' hz

/-- **Agreement.**  After a start, whatever the two sources of randomness: if the responder answers the
initiator's message, the initiator finishes on the answer with the responder's secret, which is the hash of
the run's transcript; and the responder fails to answer exactly if it has no scalar, or one of the two
points is the identity. -/
theorem finish_agrees_with_exchange (e f : Entropy) {messageA : Bytes} {s : Session E}
    (hstart : (start password context e).1 = .ok (messageA, s)) :
    ∃ y : Scalar E, (sampleScalar e).1 = .ok y ∧
      (∀ messageB k, (exchange E password context messageA f).1 = .ok (messageB, k) →
        (s.finish messageB).1 = .ok k ∧ (s.finish messageB).2.status = .finished ∧
        (s.finish messageB).1.map Secret.deriveKey = .ok k.deriveKey ∧
        ∃ x : Scalar E, (sampleScalar f).1 = .ok x ∧
          let g : E := generatorOf password context
          k.bytes = sha256 (Transcript.label ++ encode g ++ Bytes.lengthPrefixed 8 messageA ++
            encode (smul x g) ++ encode (smul x (smul y g)))) ∧
      ((∃ err, (exchange E password context messageA f).1 = .error err) ↔
        (∃ err, (sampleScalar (E := E) f).1 = .error err) ∨
        smul y (generatorOf password context : E) = identity ∨
        ∃ x : Scalar E, (sampleScalar f).1 = .ok x ∧
          smul x (smul y (generatorOf password context : E)) = identity) := by
  obtain ⟨y, hy, rfl, rfl⟩ := start_eq_ok_iff.mp hstart
  refine ⟨y, hy, ?_, exchange_ownMessage_error_iff⟩
  intro messageB k hk
  obtain ⟨hfinish, x, hx, rfl⟩ := finish_of_exchange hk
  rw [hfinish]
  exact ⟨rfl, rfl, rfl, x, hx, rfl⟩

/-- A run over residues: the generator is 14, the initiator draws 5 and the responder 9. -/
theorem residue_run_agrees :
    let s : Session Residue := opened .initiator [1] ⟨[7]⟩ (5 : Fin 251)
    (start [1] ⟨[7]⟩ (.ofBytes [5])).1 = .ok ([70, 7], s) ∧
      ∃ k, (exchange Residue [1] ⟨[7]⟩ [70, 7] (.ofBytes [9])).1 = .ok ([126, 7], k) ∧
        (s.finish [126, 7]).1 = .ok k ∧ (s.finish [126, 7]).2.status = .finished := by
  intro s
  have hstart : (start [1] ⟨[7]⟩ (.ofBytes [5])).1 = .ok ([70, 7], s) := rfl
  have hshared : Residue.smul 9 (Residue.smul 5 (generatorOf [1] ⟨[7]⟩)) ≠ identity := by decide
  have hexchange : (exchange Residue [1] ⟨[7]⟩ [70, 7] (.ofBytes [9])).1 =
      .ok ([126, 7], (sharedTranscript Residue [1] ⟨[7]⟩ (9 : Fin 251) (5 : Fin 251)).secret) :=
    congrArg Prod.fst (exchange_of_shared rfl (shared_of_ne hshared))
  obtain ⟨y, -, hagree, -⟩ := finish_agrees_with_exchange (.ofBytes [5]) (.ofBytes [9]) hstart
  obtain ⟨hfinish, hstatus, -⟩ := hagree _ _ hexchange
  exact ⟨hstart, _, hexchange, hfinish, hstatus⟩

end Pairing.Session
