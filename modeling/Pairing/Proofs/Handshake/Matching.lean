import Pairing.Proofs.ExchangeGroup.Ristretto
import Pairing.Proofs.Handshake.Agreement

/-!
# Equal secrets mean one conversation

`Completion E password context t k` says that a party with this password and context came to the secret
`k`, and that the run looks like `t` from its side: an initiator by finishing, a responder by answering,
whatever happened to the messages on the way.  Every success is one
(`exists_completion_of_finish`, `exists_completion_of_exchange`), and its secret is the hash of its
transcript (`Completion.secret_eq`).

All fields of a transcript but the first message have a length that the group fixes, so its bytes fix the
transcript (`Transcript.toBytes_inj`).  With the input of the generator, whose fields stand behind their
lengths, `transcript_eq_of_secret_eq`: short of a collision, parties with one secret have had one
conversation, under one password and one context.
-/

namespace Pairing

open ExchangeGroup

/-- Two different inputs with one value. -/
def Collides {α : Type} (f : Bytes → α) (a b : Bytes) : Prop := a ≠ b ∧ f a = f b

theorem eq_of_not_collides {α : Type} {f : Bytes → α} {a b : Bytes} (hf : ¬ Collides f a b)
    (h : f a = f b) : a = b := by
  by_cases hab : a = b
  · exact hab
  · exact absurd ⟨hab, h⟩ hf

theorem not_collides_self {α : Type} (f : Bytes → α) (a : Bytes) : ¬ Collides f a a :=
  fun h => h.1 rfl

/-! ### The bytes of a transcript -/

/-- The fields whose lengths the group fixes have those lengths. -/
structure Transcript.Fits (t : Transcript) (n : Nat) : Prop where
  generator : t.generator.length = n
  responderElement : t.responderElement.length = n
  sharedPoint : t.sharedPoint.length = n

/-- **A transcript can be read off its bytes.**  The first message is as long as the other fields leave room
for, so its length need not fit into its prefix. -/
theorem Transcript.toBytes_inj {t u : Transcript} {n : Nat} (ht : t.Fits n) (hu : u.Fits n)
    (h : t.toBytes = u.toBytes) : t = u := by
  have hlength := congrArg List.length h
  simp only [toBytes, List.length_append, Bytes.length_lengthPrefixed, ht.generator, hu.generator,
    ht.responderElement, hu.responderElement, ht.sharedPoint, hu.sharedPoint] at hlength
  have hmessage : t.messageA.length = u.messageA.length := by omega
  obtain ⟨h, hpoint⟩ := List.append_inj' h (by rw [ht.sharedPoint, hu.sharedPoint])
  obtain ⟨h, helement⟩ := List.append_inj' h (by rw [ht.responderElement, hu.responderElement])
  obtain ⟨h, hprefixed⟩ := List.append_inj' h (by
    rw [Bytes.length_lengthPrefixed, Bytes.length_lengthPrefixed, hmessage])
  have hgenerator := List.append_cancel_left h
  have hA := Bytes.lengthPrefixed_inj hprefixed
  cases t
  cases u
  simp only [mk.injEq]
  exact ⟨hgenerator, hA, helement, hpoint⟩

/-! ### Completions -/

variable {E : Type} [ExchangeGroup E]

/-- A party that used this password and context came to the secret `k` and saw the run `t`.  An initiator may
have been given other messages before the one on which it finished. -/
inductive Completion (E : Type) [ExchangeGroup E] (password : Bytes) (context : Context) :
    Transcript → Secret → Prop
  | finish {e : Entropy} {messageA reply : Bytes} {earlier : List Bytes} {s : Session E} {x : E}
      {k : Secret} :
      (Session.start password context e).1 = .ok (messageA, s) →
      peerElement reply = .ok x →
      ((s.after earlier).finish reply).1 = .ok k →
      Completion E password context
        { generator := encode (generatorOf password context : E)
          messageA := messageA
          responderElement := reply.take (elementLength E)
          sharedPoint := encode (smul s.scalar x) } k
  | exchange {e : Entropy} {messageA reply : Bytes} {x : Scalar E} {y : E} {k : Secret} :
      peerElement messageA = .ok y →
      (sampleScalar e).1 = .ok x →
      (Session.exchange E password context messageA e).1 = .ok (reply, k) →
      Completion E password context
        { generator := encode (generatorOf password context : E)
          messageA := messageA
          responderElement := reply.take (elementLength E)
          sharedPoint := encode (smul x y) } k

variable {password : Bytes} {context : Context} {e : Entropy} {messageA reply : Bytes} {k : Secret}

theorem exists_completion_of_finish {s : Session E} {earlier : List Bytes}
    (hs : (Session.start password context e).1 = .ok (messageA, s))
    (hk : ((s.after earlier).finish reply).1 = .ok k) : ∃ t, Completion E password context t k := by
  obtain ⟨-, x, hx, -⟩ := Session.finish_eq_ok_iff.mp hk
  exact ⟨_, .finish hs hx hk⟩

theorem exists_completion_of_exchange
    (hk : (Session.exchange E password context messageA e).1 = .ok (reply, k)) :
    ∃ t, Completion E password context t k := by
  obtain ⟨y, x, hy, hx, -⟩ := Session.exchange_eq_ok_iff.mp hk
  exact ⟨_, .exchange hy hx hk⟩

namespace Completion

variable {t : Transcript}

/-- **The secret of a party is the hash of what it saw.** -/
theorem secret_eq (h : Completion E password context t k) : k = t.secret := by
  cases h with
  | finish hs hx hk =>
    obtain ⟨y, -, rfl, rfl⟩ := Session.start_eq_ok_iff.mp hs
    rw [Session.after_eq_self_of_finish hk] at hk
    obtain ⟨-, x, hx', -, rfl⟩ := Session.finish_eq_ok_iff.mp hk
    cases hx.symm.trans hx'
    rfl
  | exchange hy hx hk =>
    obtain ⟨y, x, hy', hx', -, rfl, rfl⟩ := Session.exchange_eq_ok_iff.mp hk
    cases hy.symm.trans hy'
    cases hx.symm.trans hx'
    rfl

theorem fits [FixedLengthGroup E] (h : Completion E password context t k) :
    t.Fits (elementLength E) := by
  cases h with
  | finish hs hx hk =>
    have hreply := le_length_of_peerElement hx
    exact ⟨FixedLengthGroup.length_encode _, List.length_take_of_le hreply,
      FixedLengthGroup.length_encode _⟩
  | exchange hy hx hk =>
    obtain ⟨y, x, -, -, -, rfl, -⟩ := Session.exchange_eq_ok_iff.mp hk
    refine ⟨FixedLengthGroup.length_encode _, ?_, FixedLengthGroup.length_encode _⟩
    rw [Session.take_ownMessage]
    exact FixedLengthGroup.length_encode _

theorem generator_eq (h : Completion E password context t k) :
    t.generator = encode (generatorOf password context : E) := by
  cases h <;> rfl

/-- Parties with one secret saw one run, unless their runs collide. -/
theorem transcript_eq [FixedLengthGroup E] {password' : Bytes} {context' : Context} {u : Transcript}
    (ht : Completion E password context t k) (hu : Completion E password' context' u k)
    (hhash : ¬ Collides sha256 t.toBytes u.toBytes) : t = u := by
  have hsecret : t.secret = u.secret := ht.secret_eq.symm.trans hu.secret_eq
  have hbytes : sha256 t.toBytes = sha256 u.toBytes := congrArg Secret.bytes hsecret
  exact Transcript.toBytes_inj ht.fits hu.fits (eq_of_not_collides hhash hbytes)

/-! ### Both ends of an undisturbed run -/

section Shared

variable [FixedLengthGroup E] {x y : Scalar E}

theorem finish_shared (hy : (sampleScalar e).1 = .ok y)
    (h : Session.Shared (generatorOf password context : E) x y) :
    Completion E password context (Session.sharedTranscript E password context x y)
      (Session.sharedTranscript E password context x y).secret := by
  let s : Session E := .opened .initiator password context y
  have hstart : (Session.start password context e).1 = .ok (s.ownMessage, s) :=
    Session.start_eq_ok_iff.mpr ⟨y, hy, rfl, rfl⟩
  have hx := (peerElement_encode_append _ context.bytes).trans h.decode_left
  have hfinish := congrArg Prod.fst (Session.finish_of_shared h)
  have hend := Completion.finish hstart hx (show ((s.after []).finish _).1 = _ from hfinish)
  change Completion E password context
    (.mk _ _ ((Session.opened (E := E) .responder password context x).ownMessage.take _)
      (encode (smul y (smul x (generatorOf password context : E))))) _ at hend
  rw [Session.take_ownMessage, h.comm] at hend
  exact hend

theorem exchange_shared (hx : (sampleScalar e).1 = .ok x)
    (h : Session.Shared (generatorOf password context : E) x y) :
    Completion E password context (Session.sharedTranscript E password context x y)
      (Session.sharedTranscript E password context x y).secret := by
  have hy := (peerElement_encode_append _ context.bytes).trans h.decode_right
  have hend := Completion.exchange hy hx
    (congrArg Prod.fst (Session.exchange_of_shared (Prod.ext hx rfl) h))
  rw [Session.take_ownMessage] at hend
  exact hend

end Shared

end Completion

/-! ### Over ristretto255 -/

open Ristretto

/-- **Equal secrets mean one conversation.**  Two parties, each an initiator or a responder, came to the same
secret, and the inputs of the hash are not a collision.  Then they saw the same generator, first message,
responder's element and shared point.  If the inputs of their generators are no collision either, they used
the same password and context. -/
theorem transcript_eq_of_secret_eq {p q : Bytes} {c d : Context} {t u : Transcript} {k l : Secret}
    (ht : Completion Element p c t k) (hu : Completion Element q d u l) (hsecret : k = l)
    (hhash : ¬ Collides sha256 t.toBytes u.toBytes) :
    k.bytes = sha256 t.toBytes ∧ l.bytes = sha256 u.toBytes ∧ t = u ∧
      (p.length < Nat.pow 2 64 → q.length < Nat.pow 2 64 →
        ¬ Collides (fun b => (Element.ofUniform (sha512 b)).encoding)
          (generatorInput p c.bytes) (generatorInput q d.bytes) →
        p = q ∧ c = d) := by
  subst hsecret
  have htu := ht.transcript_eq hu hhash
  refine ⟨congrArg Secret.bytes ht.secret_eq, congrArg Secret.bytes hu.secret_eq, htu, ?_⟩
  intro hp hq hgenerator
  have hencode : encode (generatorOf p c : Element) = encode (generatorOf q d : Element) := by
    rw [← ht.generator_eq, htu, hu.generator_eq]
  have hencoding := encoding_eq_of_encode hencode
  rw [generatorOf, generatorOf, generator_eq, generator_eq] at hencoding
  have hinput := eq_of_not_collides hgenerator hencoding
  have hwidth : Nat.pow 2 64 = Nat.pow 256 8 := by decide
  rw [hwidth] at hp hq
  obtain ⟨hpq, hcd⟩ := generatorInput_inj hp hq hinput
  cases c
  cases d
  exact ⟨hpq, congrArg Context.mk hcd⟩

theorem shared_nine_five :
    Session.Shared (generatorOf [112, 119] ⟨[]⟩ : Element) (⟨9, by decide⟩ : Ristretto.Scalar)
      (⟨5, by decide⟩ : Ristretto.Scalar) where
  decode_left := decode_encoding (by decide +kernel)
  decode_right := decode_encoding (by decide +kernel)
  comm := by decide +kernel
  isIdentity_eq := by decide +kernel

theorem sampleScalar_five : (sampleScalar (E := Element) (.ofBytes (5 :: List.replicate 63 0))).1 =
    .ok (⟨5, by decide⟩ : Ristretto.Scalar) := by
  rw [sampleScalar_of_supply (by decide)]
  exact congrArg Except.ok (show scalarAt (Entropy.ofBytes _) 0 =
    (⟨5, by decide⟩ : Ristretto.Scalar) by decide +kernel)

theorem sampleScalar_nine : (sampleScalar (E := Element) (.ofBytes (9 :: List.replicate 63 0))).1 =
    .ok (⟨9, by decide⟩ : Ristretto.Scalar) := by
  rw [sampleScalar_of_supply (by decide)]
  exact congrArg Except.ok (show scalarAt (Entropy.ofBytes _) 0 =
    (⟨9, by decide⟩ : Ristretto.Scalar) by decide +kernel)

/-- The two ends of a run in which the initiator draws 5 and the responder 9. -/
theorem ristretto_run_matches :
    ∃ t u k, Completion Element [112, 119] ⟨[]⟩ t k ∧ Completion Element [112, 119] ⟨[]⟩ u k ∧
      ¬ Collides sha256 t.toBytes u.toBytes ∧ k.bytes = sha256 t.toBytes ∧ t = u := by
  obtain ⟨t, hinitiator, hresponder⟩ : ∃ t : Transcript,
      Completion Element [112, 119] ⟨[]⟩ t t.secret ∧ Completion Element [112, 119] ⟨[]⟩ t t.secret :=
    ⟨_, .finish_shared sampleScalar_five shared_nine_five,
      .exchange_shared sampleScalar_nine shared_nine_five⟩
  have hhash := not_collides_self sha256 t.toBytes
  obtain ⟨hbytes, -, heq, -⟩ := transcript_eq_of_secret_eq hinitiator hresponder rfl hhash
  exact ⟨t, t, t.secret, hinitiator, hresponder, hhash, hbytes, heq⟩

end Pairing
