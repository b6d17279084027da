import Pairing.Proofs.Channel
import Pairing.Proofs.ExchangeGroup.Residue

/-!
# What opens

A text opens to `p` exactly if it is the transport text of a nonce and of the ciphertext of `p` under that
nonce.  `Refused` lists all other inputs with their errors, in the order in which they are found: each of
them is refused (`openText_of_refused`), and there are no others (`sealed_or_refused`).
-/

namespace Pairing.Service

open XChaCha20Poly1305 (Tagged tag encrypt cipher)

/-- What does not open, and the error that is given for it. -/
inductive Refused : Bytes → String → Pairing.Error → Prop
  | keyLength {key : Bytes} {text : String} (length : key.length ≠ Key.length) :
      Refused key text .keyLength
  | unwritten {text : String} (k : Key) (ne_encode : ∀ b, text ≠ Transport.encode b) :
      Refused k.bytes.1 text .transportText
  | short {b : Bytes} (k : Key) (length : b.length < 24) :
      Refused k.bytes.1 (Transport.encode b) .sealedShort
  | cut {rest : Bytes} (k : Key) (nonce : Block 24) (length : rest.length < 16) :
      Refused k.bytes.1 (Transport.encode (nonce.1 ++ rest)) .authentication
  | forged {body : Bytes} {t : Block 16} (k : Key) (nonce : Block 24)
      (ne_tag : t ≠ tag k.bytes nonce body) :
      Refused k.bytes.1 (Transport.encode (nonce.1 ++ (body ++ t.1))) .authentication
  | notText {b : Bytes} (k : Key) (nonce : Block 24) (ne_ofText : ∀ p, b ≠ Bytes.ofText p) :
      Refused k.bytes.1 (Transport.encode (nonce.1 ++ encrypt k.bytes nonce b)) .plaintextText

variable {key : Bytes} {text : String}

theorem openText_of_not_tagged (k : Key) {nonce : Block 24} {rest : Bytes}
    (h : ¬ Tagged k.bytes nonce rest) :
    openText ⟨k.bytes.1, Transport.encode (nonce.1 ++ rest)⟩ = .error (.pairing .authentication) := by
  have hparse := SealedMessage.ofBytes_toBytes ⟨nonce, rest⟩
  have hopen : k.openBytes ⟨nonce, rest⟩ = .error .authentication := Key.openBytes_of_not_tagged h
  rw [SealedMessage.toBytes] at hparse
  simp only [openText, Key.ofBytes_bytes, Transport.decode_encode, hparse, hopen]

/-- **Each reason is a failure.** -/
theorem openText_of_refused {cause : Pairing.Error} (h : Refused key text cause) :
    openText ⟨key, text⟩ = .error (.pairing cause) := by
  cases h with
  | keyLength hlength => simp only [openText, Key.ofBytes_of_length_ne hlength]
  | unwritten k hne => simp only [openText, Key.ofBytes_bytes, Transport.decode_of_forall_ne hne]
  | short k hshort =>
    simp only [openText, Key.ofBytes_bytes, Transport.decode_encode,
      SealedMessage.ofBytes_of_short hshort]
  | cut k nonce hcut =>
    apply openText_of_not_tagged
    intro htagged
    exact Nat.not_le.mpr hcut (XChaCha20Poly1305.tagLength_le_of_tagged htagged)
  | forged k nonce hne =>
    apply openText_of_not_tagged
    intro htagged
    exact hne (XChaCha20Poly1305.tagged_append_iff.mp htagged)
  | @notText b k nonce hne =>
    have hparse := SealedMessage.ofBytes_toBytes (k.sealUnder nonce b)
    have htext := Bytes.toText?_eq_none_iff.mpr hne
    rw [Key.toBytes_sealUnder] at hparse
    simp only [openText, Key.ofBytes_bytes, Transport.decode_encode, hparse,
      Key.openBytes_sealUnder, htext]

/-- A key and a text that was sealed under it. -/
def Sealed (key : Bytes) (text p : String) : Prop :=
  ∃ (h : key.length = 32) (nonce : Block 24),
    text = Transport.encode (nonce.1 ++ encrypt ⟨key, h⟩ nonce (Bytes.ofText p))

theorem openText_of_sealed {p : String} (h : Sealed key text p) :
    openText ⟨key, text⟩ = .ok ⟨p⟩ := by
  obtain ⟨hlength, nonce, rfl⟩ := h
  exact openText_sealedWith ⟨⟨key, hlength⟩⟩ nonce p

/-- What stands behind the nonce is an authentic ciphertext, or there is a reason to refuse it. -/
theorem tagged_or_refused (k : Key) (nonce : Block 24) (rest : Bytes) :
    Tagged k.bytes nonce rest ∨
      Refused k.bytes.1 (Transport.encode (nonce.1 ++ rest)) .authentication := by
  by_cases hcut : rest.length < 16
  · exact Or.inr (.cut k nonce hcut)
  · obtain ⟨body, t, rfl⟩ := Bytes.exists_append_block (Nat.not_lt.mp hcut)
    by_cases ht : t = tag k.bytes nonce body
    · exact Or.inl (XChaCha20Poly1305.tagged_append_iff.mpr ht)
    · exact Or.inr (.forged k nonce ht)

/-- An authentic ciphertext is that of a text, or it is refused for that. -/
theorem sealed_or_refused_of_tagged (k : Key) (nonce : Block 24) {rest : Bytes}
    (h : Tagged k.bytes nonce rest) :
    (∃ p, Sealed k.bytes.1 (Transport.encode (nonce.1 ++ rest)) p) ∨
      Refused k.bytes.1 (Transport.encode (nonce.1 ++ rest)) .plaintextText := by
  obtain ⟨body, rfl⟩ := h
  have hcipher : encrypt k.bytes nonce (cipher k.bytes nonce body) =
      body ++ (tag k.bytes nonce body).1 := XChaCha20Poly1305.encrypt_cipher _ _ _
  rw [← hcipher]
  cases hp : Bytes.toText? (cipher k.bytes nonce body) with
  | none => exact Or.inr (.notText k nonce (Bytes.toText?_eq_none_iff.mp hp))
  | some p =>
    rw [Bytes.eq_ofText_of_toText? hp]
    exact Or.inl ⟨p, k.bytes.2, nonce, rfl⟩

/-- **There is no third case.** -/
theorem sealed_or_refused (key : Bytes) (text : String) :
    (∃ p, Sealed key text p) ∨ ∃ cause, Refused key text cause := by
  by_cases hlength : key.length = Key.length
  · let k : Key := ⟨⟨key, hlength⟩⟩
    cases hread : Transport.decode text with
    | error err =>
      refine Or.inr ⟨_, .unwritten k ?_⟩
      rintro b rfl
      cases (Transport.decode_encode b).symm.trans hread
    | ok b =>
      obtain rfl := Transport.decode_eq_ok_iff.mp hread
      by_cases hshort : b.length < 24
      · exact Or.inr ⟨_, .short k hshort⟩
      · obtain ⟨⟨nonce, rest⟩, rfl⟩ := SealedMessage.exists_toBytes (Nat.not_lt.mp hshort)
        rcases tagged_or_refused k nonce rest with htagged | hrefused
        · exact (sealed_or_refused_of_tagged k nonce htagged).imp_right fun h => ⟨_, h⟩
        · exact Or.inr ⟨_, hrefused⟩
  · exact Or.inr ⟨_, .keyLength hlength⟩

theorem openText_eq_ok_iff {p : String} : openText ⟨key, text⟩ = .ok ⟨p⟩ ↔ Sealed key text p := by
  constructor
  · intro h
    rcases sealed_or_refused key text with ⟨p', hsealed⟩ | ⟨cause, hrefused⟩
    · cases (openText_of_sealed hsealed).symm.trans h
      exact hsealed
    · cases (openText_of_refused hrefused).symm.trans h
  · exact openText_of_sealed

theorem openText_eq_error_iff {err : Error} :
    openText ⟨key, text⟩ = .error err ↔ ∃ cause, Refused key text cause ∧ err = .pairing cause := by
  constructor
  · intro h
    rcases sealed_or_refused key text with ⟨p, hsealed⟩ | ⟨cause, hrefused⟩
    · cases (openText_of_sealed hsealed).symm.trans h
    · cases (openText_of_refused hrefused).symm.trans h
      exact ⟨cause, hrefused, rfl⟩
  · rintro ⟨cause, hrefused, rfl⟩
    exact openText_of_refused hrefused

/-- Only an authentication that fails is not a matter of encoding. -/
theorem Refused.kind_eq {cause : Pairing.Error} (h : Refused key text cause) :
    cause.kind = if cause = .authentication then .authentication else .encoding := by
  cases h <;> rfl

/-- A nonce and a body have one tag and one text. -/
theorem sealed_append_iff {p : String} {body : Bytes} {t : Block 16} (h : key.length = 32)
    (nonce : Block 24) :
    Sealed key (Transport.encode (nonce.1 ++ (body ++ t.1))) p ↔
      t = tag ⟨key, h⟩ nonce body ∧ cipher ⟨key, h⟩ nonce body = Bytes.ofText p := by
  constructor
  · rintro ⟨h', nonce', htext⟩
    have hbytes := Transport.encode_inj htext
    obtain ⟨hnonce, hrest⟩ := List.append_inj hbytes (by rw [nonce.2, nonce'.2])
    obtain rfl := Subtype.ext hnonce
    rw [encrypt] at hrest
    obtain ⟨rfl, ht⟩ := List.append_inj' hrest (t.2.trans (tag _ _ _).2.symm)
    exact ⟨Subtype.ext ht, XChaCha20Poly1305.cipher_cipher _ _ _⟩
  · rintro ⟨rfl, hbody⟩
    refine ⟨h, nonce, ?_⟩
    rw [← hbody, XChaCha20Poly1305.encrypt_cipher]

variable {E : Type} [ExchangeGroup E]

theorem sealed_of_sealText {s : Service E} {p : String} {c : SealResponse}
    (h : (s.sealText ⟨key, p⟩).1 = .ok c) : Sealed key c.sealedText p := by
  by_cases hlength : key.length = Key.length
  · let k : Key := ⟨⟨key, hlength⟩⟩
    by_cases hsupply : s.entropy.used + 24 ≤ s.entropy.supply
    · cases (sealText_of_supply s k p hsupply).symm.trans h
      exact ⟨hlength, s.entropy.nonceAt s.entropy.used, rfl⟩
    · cases (congrArg Prod.fst (sealText_eq_of_short s k p hsupply)).symm.trans h
  · simp only [sealText, Key.ofBytes_of_length_ne hlength] at h
    cases h

/-- **What opens is what can be sealed.**  A text opens to `p` exactly if the key has 32 bytes and there is a
nonce under which this is the text of what `p` is sealed to; so all that a service seals opens.  Behind a
nonce and a body there is one tag that opens, and one text.  All other inputs are refused, for the first
reason that applies. -/
theorem openText_accepts_what_is_sealed (s : Service E) (key : Bytes) (text : String) :
    (∀ p, openText ⟨key, text⟩ = .ok ⟨p⟩ ↔
      ∃ (h : key.length = 32) (nonce : Block 24), text = Transport.encode
        (nonce.1 ++ XChaCha20Poly1305.encrypt ⟨key, h⟩ nonce (Bytes.ofText p))) ∧
    (∀ p c, (s.sealText ⟨key, p⟩).1 = .ok c → openText ⟨key, c.sealedText⟩ = .ok ⟨p⟩) ∧
    (∀ (h : key.length = 32) (nonce : Block 24) (body : Bytes) (t : Block 16) (p : String),
      Transport.decode text = .ok (nonce.1 ++ (body ++ t.1)) ∧ openText ⟨key, text⟩ = .ok ⟨p⟩ ↔
        text = Transport.encode (nonce.1 ++ (body ++ t.1)) ∧
        t = XChaCha20Poly1305.tag ⟨key, h⟩ nonce body ∧
        XChaCha20Poly1305.cipher ⟨key, h⟩ nonce body = Bytes.ofText p) ∧
    (∀ err, openText ⟨key, text⟩ = .error err ↔
      ∃ cause, Refused key text cause ∧ err = .pairing cause) ∧
    ∀ err, openText ⟨key, text⟩ = .error err →
      err.kind = if err = .pairing .authentication then .authentication else .encoding := by
  refine ⟨fun p => openText_eq_ok_iff, ?_, ?_, fun err => openText_eq_error_iff, ?_⟩
  · intro p c hc
    exact openText_of_sealed (sealed_of_sealText hc)
  · intro h nonce body t p
    rw [Transport.decode_eq_ok_iff]
    apply and_congr_right
    rintro rfl
    rw [openText_eq_ok_iff, sealed_append_iff h]
  · intro err herr
    obtain ⟨cause, hrefused, rfl⟩ := openText_eq_error_iff.mp herr
    simp only [Error.pairing.injEq]
    exact hrefused.kind_eq

/-- A service with 24 bytes of randomness seals a text under a key of 32 sevens, and it opens again. -/
theorem sealed_text_opens :
    let s : Service Residue := new Residue {} (.ofBytes (List.replicate 24 1))
    ∃ c, (s.sealText ⟨List.replicate 32 7, "hi"⟩).1 = .ok c ∧
      openText ⟨List.replicate 32 7, c.sealedText⟩ = .ok ⟨"hi"⟩ := by
  intro s
  let k : Key := ⟨⟨List.replicate 32 7, by decide⟩⟩
  have hseal := sealText_of_supply s k "hi" (by decide)
  obtain ⟨-, hopen, -⟩ := openText_accepts_what_is_sealed s k.bytes.1 ""
  exact ⟨_, hseal, hopen _ _ hseal⟩

end Pairing.Service
